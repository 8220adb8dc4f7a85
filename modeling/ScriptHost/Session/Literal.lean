import ScriptHost.Json.Printer

/-!
# Literals of the scripting language

JSON data as an expression of the scripting language: `None`, `True` and `False` for the three
words, numbers and quoted texts as in JSON, whose escapes are also escapes of the language, lists in
brackets and dictionaries in braces, with a blank after each comma and each colon.

## Main definitions

* `ScriptHost.Literal.text` — the characters of a literal.
* `ScriptHost.Json.literal` — the literal as a string.
-/

namespace ScriptHost

namespace Literal

/-- The literal of null. -/
def noneText : List Char :=
  ['N', 'o', 'n', 'e']

/-- The literal of a truth value. -/
def boolText (b : Bool) : List Char :=
  if b then ['T', 'r', 'u', 'e'] else ['F', 'a', 'l', 's', 'e']

mutual

/-- The literal of a value. -/
def text : Json → List Char
  | .null => noneText
  | .bool b => boolText b
  | .num n => n.text
  | .str s => Json.quoted s
  | .arr [] => ['[', ']']
  | .arr (x :: xs) => '[' :: (text x ++ itemsText xs ++ [']'])
  | .obj [] => ['{', '}']
  | .obj ((k, x) :: xs) =>
    '{' :: (Json.quoted k ++ ':' :: ' ' :: text x ++ fieldsText xs ++ ['}'])

/-- The literals of the items after the first, each behind a comma and a blank. -/
def itemsText : List Json → List Char
  | [] => []
  | x :: xs => ',' :: ' ' :: (text x ++ itemsText xs)

/-- The literals of the fields after the first, each behind a comma and a blank. -/
def fieldsText : List (String × Json) → List Char
  | [] => []
  | (k, x) :: xs => ',' :: ' ' :: (Json.quoted k ++ ':' :: ' ' :: text x ++ fieldsText xs)

end

end Literal

/-- The literal of a value as a string. -/
def Json.literal (json : Json) : String :=
  String.ofList (Literal.text json)

end ScriptHost
