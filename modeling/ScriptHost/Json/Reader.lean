import ScriptHost.Json.Basic
import ScriptHost.Json.Tree
import ScriptHost.Text.Utf8

/-!
# Reading JSON data

Reading a tree gives each numeral its number and each quoted text its characters, and fails where a
numeral is past the doubles, where raw bytes are not UTF-8, where an escaped surrogate stands alone,
and where containers nest deeper than allowed. Of several fields of one key the last one stays.

## Main definitions

* `ScriptHost.Json.textOf?` — the text that spelled pieces make up.
* `ScriptHost.Json.Tree.read?` — the value of a tree.
* `ScriptHost.Json.ofBytes?` — the value that some bytes spell.
-/

namespace ScriptHost.Json

/-- The depth to which containers may nest. -/
def nestingLimit : Nat := 127

/-! ## Quoted texts -/

/-- Whether a code unit is the first half of a surrogate pair. -/
def isHighSurrogate (unit : Nat) : Bool :=
  0xD800 ≤ unit && unit < 0xDC00

/-- Whether a code unit is the second half of a surrogate pair. -/
def isLowSurrogate (unit : Nat) : Bool :=
  0xDC00 ≤ unit && unit < 0xE000

/-- The code point of a surrogate pair. -/
def pairCode (high low : Nat) : Nat :=
  0x10000 + (high - 0xD800) * 0x400 + (low - 0xDC00)

/-- The bytes that spelled pieces make up behind bytes read before, which stand in reverse order;
`half` is a first half of a surrogate pair that waits for the second. -/
def spelledBytes? (read : List UInt8) (half : Option Nat) : List Spelled → Option (List UInt8)
  | [] => if half.isNone then some read.reverse else none
  | .byte b :: rest => if half.isNone then spelledBytes? (b :: read) none rest else none
  | .unit u :: rest =>
    match half with
    | some high =>
      if isLowSurrogate u then
        let encoded := String.utf8EncodeChar (Char.ofNat (pairCode high u))
        spelledBytes? (encoded.reverse ++ read) none rest
      else none
    | none =>
      if isHighSurrogate u then spelledBytes? read (some u) rest
      else if isLowSurrogate u then none
      else spelledBytes? ((String.utf8EncodeChar (Char.ofNat u)).reverse ++ read) none rest

/-- The text that spelled pieces make up. -/
def textOf? (pieces : List Spelled) : Option String :=
  (spelledBytes? [] none pieces).bind Text.ofBytes?

/-! ## Trees -/

namespace Tree

mutual

/-- The value of a tree whose containers nest at most to a depth. -/
def read? (depth : Nat) : Tree → Option Json
  | null => some .null
  | bool b => some (.bool b)
  | number n => n.value?.map .num
  | quoted pieces => (textOf? pieces).map .str
  | arr items =>
    if depth = 0 then none else (readItems? (depth - 1) [] items).map .arr
  | obj fields =>
    if depth = 0 then none else (readFields? (depth - 1) [] fields).map Json.ofFields

/-- The values of items behind values read before, which stand in reverse order. -/
def readItems? (depth : Nat) (done : List Json) : List Tree → Option (List Json)
  | [] => some done.reverse
  | tree :: rest =>
    match read? depth tree with
    | none => none
    | some value => readItems? depth (value :: done) rest

/-- The keys and values of fields behind fields read before, which stand in reverse order. -/
def readFields? (depth : Nat) (done : List (String × Json)) :
    List (List Spelled × Tree) → Option (List (String × Json))
  | [] => some done.reverse
  | (key, tree) :: rest =>
    match textOf? key, read? depth tree with
    | some name, some value => readFields? depth ((name, value) :: done) rest
    | _, _ => none

end

end Tree

/-- The value that some bytes spell. -/
def ofBytes? (bs : List UInt8) : Option Json :=
  (Tree.ofBytes? bs).bind (Tree.read? nestingLimit)

end ScriptHost.Json
