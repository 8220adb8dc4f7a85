import ScriptHost.Text.Characters

/-!
# Identifiers of the scripting language

A name may stand on the left of an assignment when it begins with an alphabetic character or an
underscore, goes on with alphabetic or numeric characters or underscores, and is none of the
reserved words.

## Main definitions

* `ScriptHost.Text.reservedWords` — the words of the scripting language that are no names.
* `ScriptHost.Text.isIdentifier` — whether a name may be assigned to.
-/

namespace ScriptHost.Text

/-- The reserved words of the scripting language. -/
def reservedWords : List String :=
  ["False", "None", "True", "and", "as", "assert", "async", "await", "break", "class",
   "continue", "def", "del", "elif", "else", "except", "finally", "for", "from", "global",
   "if", "import", "in", "is", "lambda", "nonlocal", "not", "or", "pass", "raise", "return",
   "try", "while", "with", "yield"]

/-- Whether a name may begin with this character. -/
def startsName (c : Char) : Bool :=
  c == '_' || isAlphabetic c

/-- Whether a name may go on with this character. -/
def continuesName (c : Char) : Bool :=
  c == '_' || isAlphanumeric c

/-- Whether the characters have the shape of a name: a first character that may begin one, and
after it only characters that may go on. -/
def isNameShaped : List Char → Bool
  | [] => false
  | first :: rest => startsName first && rest.all continuesName

/-- Whether a name may stand on the left of an assignment. -/
def isIdentifier (name : String) : Bool :=
  isNameShaped name.toList && !reservedWords.contains name

end ScriptHost.Text
