import ScriptHost.Number.Numeral

/-!
# Tokens of JSON text

A JSON text is a row of tokens: brackets, commas, colons, the three words, numerals and quoted
texts. The bytes are read one at a time by `Scan.step`, which keeps the unfinished token and the
tokens before it; blanks between tokens are space, tab, line feed and carriage return.

A quoted text is kept as it is spelled, as raw bytes and as code units from `\u` escapes. Whether
these make up a text is decided later, by whoever needs the text.

## Main definitions

* `ScriptHost.Json.Spelled` — one raw byte or one escaped code unit of a quoted text.
* `ScriptHost.Json.Token` — the tokens.
* `ScriptHost.Json.tokens?` — the tokens of some bytes.
-/

namespace ScriptHost.Json

/-- One piece of a quoted text. -/
inductive Spelled where
  /-- A byte that stands for itself, or the byte of a short escape. -/
  | byte (value : UInt8)
  /-- The code unit of a `\u` escape. -/
  | unit (value : Nat)
deriving DecidableEq

/-- A token. -/
inductive Token where
  /-- A left bracket. -/
  | openArray
  /-- A right bracket. -/
  | closeArray
  /-- A left brace. -/
  | openObject
  /-- A right brace. -/
  | closeObject
  /-- A comma. -/
  | comma
  /-- A colon. -/
  | colon
  /-- The word for null. -/
  | null
  /-- A word for a truth value. -/
  | bool (value : Bool)
  /-- A numeral. -/
  | number (value : Numeral)
  /-- A quoted text. -/
  | quoted (pieces : List Spelled)
deriving DecidableEq

/-- The token that is being read. What has been read of it stands in reverse order. -/
inductive Scan.Open where
  /-- No token is open. -/
  | between
  /-- A numeral. -/
  | number (read : List UInt8)
  /-- A word. -/
  | word (read : List UInt8)
  /-- A quoted text. -/
  | quoted (read : List Spelled)
  /-- A quoted text after a backslash. -/
  | escaped (read : List Spelled)
  /-- A quoted text inside a `\u` escape: how many digits are missing, and the value so far. -/
  | hex (read : List Spelled) (missing : Nat) (value : Nat)

/-- What has been read: the tokens in reverse order and the token that is open. -/
structure Scan where
  /-- The finished tokens, the last one first. -/
  done : List Token
  /-- The unfinished token. -/
  state : Scan.Open

namespace Scan

/-- Whether a byte may stand in a numeral. -/
def isNumeralByte (b : UInt8) : Bool :=
  Numeral.isDigit b || b == 0x2D || b == 0x2B || b == 0x2E || b == 0x65 || b == 0x45

/-- Whether a byte may stand in a word: a lower-case ASCII letter. -/
def isWordByte (b : UInt8) : Bool :=
  0x61 ≤ b && b ≤ 0x7A

/-- Whether a byte is a blank between tokens. -/
def isBlankByte (b : UInt8) : Bool :=
  b == 0x20 || b == 0x9 || b == 0xA || b == 0xD

/-- The token that a word is. -/
def word? (word : List UInt8) : Option Token :=
  if word = [0x6E, 0x75, 0x6C, 0x6C] then some .null
  else if word = [0x74, 0x72, 0x75, 0x65] then some (.bool true)
  else if word = [0x66, 0x61, 0x6C, 0x73, 0x65] then some (.bool false)
  else none

/-- The token that is one byte. -/
def punctuation? (b : UInt8) : Option Token :=
  if b == 0x5B then some .openArray
  else if b == 0x5D then some .closeArray
  else if b == 0x7B then some .openObject
  else if b == 0x7D then some .closeObject
  else if b == 0x2C then some .comma
  else if b == 0x3A then some .colon
  else none

/-- The byte that a short escape stands for. -/
def shortEscape? (b : UInt8) : Option UInt8 :=
  if b == 0x22 || b == 0x5C || b == 0x2F then some b
  else if b == 0x62 then some 0x8
  else if b == 0x66 then some 0xC
  else if b == 0x6E then some 0xA
  else if b == 0x72 then some 0xD
  else if b == 0x74 then some 0x9
  else none

/-- The value of a hexadecimal digit of either case. -/
def hexValue? (b : UInt8) : Option Nat :=
  if Numeral.isDigit b then some (b.toNat - 0x30)
  else if 0x61 ≤ b && b ≤ 0x66 then some (b.toNat - 0x61 + 10)
  else if 0x41 ≤ b && b ≤ 0x46 then some (b.toNat - 0x41 + 10)
  else none

/-- Ends the token that is open, where it may end without a mark of its own. -/
def finish? (scan : Scan) : Option (List Token) :=
  match scan.state with
  | .between => some scan.done
  | .number read => (Numeral.ofBytes? read.reverse).map fun n => .number n :: scan.done
  | .word read => (word? read.reverse).map (· :: scan.done)
  | _ => none

/-- Reads a byte after a finished token. -/
def between? (done : List Token) (b : UInt8) : Option Scan :=
  if isBlankByte b then some ⟨done, .between⟩
  else if b == 0x22 then some ⟨done, .quoted []⟩
  else if isWordByte b then some ⟨done, .word [b]⟩
  else if isNumeralByte b then some ⟨done, .number [b]⟩
  else (punctuation? b).map fun token => ⟨token :: done, .between⟩

/-- Reads a byte inside a quoted text. -/
def inQuotes? (done : List Token) (read : List Spelled) (b : UInt8) : Option Scan :=
  if b == 0x22 then some ⟨.quoted read.reverse :: done, .between⟩
  else if b == 0x5C then some ⟨done, .escaped read⟩
  else if b < 0x20 then none
  else some ⟨done, .quoted (.byte b :: read)⟩

/-- Reads a byte. Numerals and words go on as long as their bytes do. -/
def step? (scan : Scan) (b : UInt8) : Option Scan :=
  match scan.state with
  | .between => between? scan.done b
  | .number read =>
    if isNumeralByte b then some ⟨scan.done, .number (b :: read)⟩
    else scan.finish?.bind (between? · b)
  | .word read =>
    if isWordByte b then some ⟨scan.done, .word (b :: read)⟩
    else scan.finish?.bind (between? · b)
  | .quoted read => inQuotes? scan.done read b
  | .escaped read =>
    if b == 0x75 then some ⟨scan.done, .hex read 4 0⟩
    else (shortEscape? b).map fun byte => ⟨scan.done, .quoted (.byte byte :: read)⟩
  | .hex read missing value =>
    (hexValue? b).map fun digit =>
      if missing ≤ 1 then ⟨scan.done, .quoted (.unit (16 * value + digit) :: read)⟩
      else ⟨scan.done, .hex read (missing - 1) (16 * value + digit)⟩

end Scan

/-- The tokens of some bytes; none when the bytes are no row of tokens. -/
def tokens? (bs : List UInt8) : Option (List Token) :=
  ((bs.foldlM Scan.step? ⟨[], .between⟩).bind Scan.finish?).map List.reverse

end ScriptHost.Json
