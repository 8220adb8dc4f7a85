import ScriptHost.Json.Token

/-!
# Trees of JSON text

A tree is a JSON text that has the right structure and whose numerals and quoted texts have not been
looked at: a numeral may be out of range and a quoted text may be no text. The tokens are read one
at a time by `Build.step?`, which keeps the containers that are open, so the depth of a tree is not
limited.

## Main definitions

* `ScriptHost.Json.Tree` — the structure of a JSON text.
* `ScriptHost.Json.Tree.ofTokens?` — the tree that a row of tokens spells.
* `ScriptHost.Json.Tree.ofBytes?` — the tree that some bytes spell.
-/

namespace ScriptHost.Json

/-- The structure of a JSON text. -/
inductive Tree where
  /-- The word for null. -/
  | null
  /-- A word for a truth value. -/
  | bool (value : Bool)
  /-- A numeral. -/
  | number (value : Numeral)
  /-- A quoted text. -/
  | quoted (pieces : List Spelled)
  /-- An array. -/
  | arr (items : List Tree)
  /-- An object, its fields as they stand in the text. -/
  | obj (fields : List (List Spelled × Tree))

/-- A container that waits for a value. What it holds so far stands in reverse order. -/
inductive Build.Frame where
  /-- An array. -/
  | array (items : List Tree)
  /-- An object that has read a key and the colon after it. -/
  | object (fields : List (List Spelled × Tree)) (key : List Spelled)

/-- What may come next, and the containers around it, the innermost first. -/
inductive Build where
  /-- A value. -/
  | value (around : List Build.Frame)
  /-- The first item of an array or its end. -/
  | firstItem (around : List Build.Frame)
  /-- A comma or the end of an array. -/
  | afterItem (items : List Tree) (around : List Build.Frame)
  /-- The first key of an object or its end. -/
  | firstKey (around : List Build.Frame)
  /-- A key. -/
  | nextKey (fields : List (List Spelled × Tree)) (around : List Build.Frame)
  /-- The colon after a key. -/
  | colon (fields : List (List Spelled × Tree)) (key : List Spelled) (around : List Build.Frame)
  /-- A comma or the end of an object. -/
  | afterField (fields : List (List Spelled × Tree)) (around : List Build.Frame)
  /-- Nothing: the tree is complete. -/
  | done (tree : Tree)

namespace Build

/-- Hands a complete tree to the container that waits for it. -/
def complete (tree : Tree) : List Frame → Build
  | [] => .done tree
  | .array items :: around => .afterItem (tree :: items) around
  | .object fields key :: around => .afterField ((key, tree) :: fields) around

/-- Reads the first token of a value. -/
def begin? (around : List Frame) : Token → Option Build
  | .null => some (complete .null around)
  | .bool b => some (complete (.bool b) around)
  | .number n => some (complete (.number n) around)
  | .quoted pieces => some (complete (.quoted pieces) around)
  | .openArray => some (.firstItem around)
  | .openObject => some (.firstKey around)
  | _ => none

/-- Reads a token. -/
def step? : Build → Token → Option Build
  | .value around, token => begin? around token
  | .firstItem around, .closeArray => some (complete (.arr []) around)
  | .firstItem around, token => begin? (.array [] :: around) token
  | .afterItem items around, .comma => some (.value (.array items :: around))
  | .afterItem items around, .closeArray => some (complete (.arr items.reverse) around)
  | .firstKey around, .closeObject => some (complete (.obj []) around)
  | .firstKey around, .quoted key => some (.colon [] key around)
  | .nextKey fields around, .quoted key => some (.colon fields key around)
  | .colon fields key around, .colon => some (.value (.object fields key :: around))
  | .afterField fields around, .comma => some (.nextKey fields around)
  | .afterField fields around, .closeObject => some (complete (.obj fields.reverse) around)
  | _, _ => none

/-- The tree, when it is complete. -/
def result? : Build → Option Tree
  | .done tree => some tree
  | _ => none

end Build

namespace Tree

/-- The tree that a row of tokens spells. -/
def ofTokens? (tokens : List Token) : Option Tree :=
  (tokens.foldlM Build.step? (.value [])).bind Build.result?

/-- The tree that some bytes spell. -/
def ofBytes? (bs : List UInt8) : Option Tree :=
  (tokens? bs).bind ofTokens?

end Tree

end ScriptHost.Json
