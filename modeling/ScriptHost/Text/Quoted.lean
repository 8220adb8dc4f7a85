import ScriptHost.Text.Characters

/-!
# Quoted texts

A text between double quotes, in which every character can be seen: the quote and the backslash
stand behind a backslash, four control characters have letters of their own, and a character that
shows nothing or is drawn with the one before it is shown by its code in lower-case hexadecimal
digits.

## Main definitions

* `ScriptHost.Text.shownChar` — the characters that show a character.
* `ScriptHost.Text.quoted` — a text between quotes.
-/

namespace ScriptHost.Text

/-- A character by its code. -/
def shownCode (c : Char) : List Char :=
  ['\\', 'u', '{'] ++ Nat.toDigits 16 c.toNat ++ ['}']

/-- The characters that show a character between quotes. -/
def shownChar (c : Char) : List Char :=
  if c = '\x00' then ['\\', '0']
  else if c = '\t' then ['\\', 't']
  else if c = '\n' then ['\\', 'n']
  else if c = '\r' then ['\\', 'r']
  else if c = '"' || c = '\\' then ['\\', c]
  else if isExtending c || isHidden c then shownCode c
  else [c]

/-- A text between quotes. -/
def quoted (text : List Char) : String :=
  String.ofList ('"' :: (text.flatMap shownChar ++ ['"']))

end ScriptHost.Text
