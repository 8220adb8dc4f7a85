import ScriptHost.Json.Basic

/-!
# The text of JSON data

The compact text has no blanks. The indented text puts every item and field on a line of its own,
two blanks deeper than its container, and a blank after each colon; empty containers stay on one
line. In both a text is quoted with escapes for the quote, the backslash and the characters below
U+0020, and for nothing else.

## Main definitions

* `ScriptHost.Json.quoted` — the characters of a quoted text.
* `ScriptHost.Json.text` — the compact text as characters.
* `ScriptHost.Json.indented` — the indented text as characters.
* `ScriptHost.Json.compact`, `ScriptHost.Json.pretty` — the same as strings.
-/

namespace ScriptHost.Json

/-- A lower-case hexadecimal digit. -/
def hexDigit (n : Nat) : Char :=
  Nat.digitChar (n % 16)

/-- The characters that stand for one character inside quotes. -/
def escape (c : Char) : List Char :=
  if c = '"' then ['\\', '"']
  else if c = '\\' then ['\\', '\\']
  else if c = '\x08' then ['\\', 'b']
  else if c = '\x0C' then ['\\', 'f']
  else if c = '\n' then ['\\', 'n']
  else if c = '\r' then ['\\', 'r']
  else if c = '\t' then ['\\', 't']
  else if c.toNat < 0x20 then ['\\', 'u', '0', '0', hexDigit (c.toNat / 16), hexDigit c.toNat]
  else [c]

/-- The characters of a quoted text. -/
def quoted (s : String) : List Char :=
  '"' :: (s.toList.flatMap escape ++ ['"'])

/-- The characters of a truth value. -/
def boolText (b : Bool) : List Char :=
  if b then ['t', 'r', 'u', 'e'] else ['f', 'a', 'l', 's', 'e']

/-- The characters of null. -/
def nullText : List Char :=
  ['n', 'u', 'l', 'l']

/-! ## Compact text -/

mutual

/-- The compact text of a value. -/
def text : Json → List Char
  | null => nullText
  | bool b => boolText b
  | num n => n.text
  | str s => quoted s
  | arr [] => ['[', ']']
  | arr (x :: xs) => '[' :: (text x ++ itemsText xs ++ [']'])
  | obj [] => ['{', '}']
  | obj ((k, x) :: xs) => '{' :: (quoted k ++ ':' :: text x ++ fieldsText xs ++ ['}'])

/-- The compact text of the items after the first, each behind a comma. -/
def itemsText : List Json → List Char
  | [] => []
  | x :: xs => ',' :: (text x ++ itemsText xs)

/-- The compact text of the fields after the first, each behind a comma. -/
def fieldsText : List (String × Json) → List Char
  | [] => []
  | (k, x) :: xs => ',' :: (quoted k ++ ':' :: text x ++ fieldsText xs)

end

/-- The compact text of a value as a string. -/
def compact (json : Json) : String :=
  String.ofList json.text

/-! ## Indented text -/

/-- A new line at a depth. -/
def newLine (depth : Nat) : List Char :=
  '\n' :: List.replicate (2 * depth) ' '

mutual

/-- The indented text of a value that stands at a depth. -/
def indented (depth : Nat) : Json → List Char
  | arr (x :: xs) =>
    '[' :: (newLine (depth + 1) ++ indented (depth + 1) x ++ indentedItems (depth + 1) xs ++
      newLine depth ++ [']'])
  | obj ((k, x) :: xs) =>
    '{' :: (newLine (depth + 1) ++ quoted k ++ ':' :: ' ' :: indented (depth + 1) x ++
      indentedFields (depth + 1) xs ++ newLine depth ++ ['}'])
  | null => nullText
  | bool b => boolText b
  | num n => n.text
  | str s => quoted s
  | arr [] => ['[', ']']
  | obj [] => ['{', '}']

/-- The indented text of the items after the first. -/
def indentedItems (depth : Nat) : List Json → List Char
  | [] => []
  | x :: xs => ',' :: (newLine depth ++ indented depth x ++ indentedItems depth xs)

/-- The indented text of the fields after the first. -/
def indentedFields (depth : Nat) : List (String × Json) → List Char
  | [] => []
  | (k, x) :: xs =>
    ',' :: (newLine depth ++ quoted k ++ ':' :: ' ' :: indented depth x ++
      indentedFields depth xs)

end

/-- The indented text of a value as a string. -/
def pretty (json : Json) : String :=
  String.ofList (json.indented 0)

end ScriptHost.Json
