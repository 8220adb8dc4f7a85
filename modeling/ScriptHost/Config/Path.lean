import ScriptHost.Text.Quoted

/-!
# Paths

Paths start in one directory, whose own name does not matter and is shown by a placeholder; only
paths that begin with a slash start elsewhere. The parts of a path stand between slashes. Empty
parts and single dots lead nowhere, and two dots lead to the directory above.

The directory holds files only, and of the directories above nothing is known but the files that
were put there. So a path leads to a file just when its parts are some steps up and one name.

## Main definitions

* `ScriptHost.Path` — a path.
* `ScriptHost.Path.ofName` — the path for a name that is given from the directory.
* `ScriptHost.Path.place?` — the place of the file that a path leads to.
* `ScriptHost.Path.withExtension` — the path to a file of the same name with another extension.
-/

namespace ScriptHost

/-- A path. -/
structure Path where
  /-- The characters of the path. -/
  text : List Char
deriving DecidableEq

namespace Path

/-- The placeholder for the directory in which paths start. -/
def start : List Char :=
  ['<', 'd', 'i', 'r', '>']

/-- The part that leads to the directory above. -/
def upward : List Char :=
  ['.', '.']

/-- The path for a name that is given from the directory; a name that begins with a slash is a path
already. -/
def ofName (name : String) : Path :=
  match name.toList with
  | '/' :: rest => ⟨'/' :: rest⟩
  | relative => ⟨start ++ '/' :: relative⟩

/-- The path in quotes. -/
def shown (path : Path) : String :=
  Text.quoted path.text

/-! ## Parts -/

/-- What stands between slashes. -/
def pieces : List Char → List (List Char)
  | [] => [[]]
  | c :: rest =>
    if c = '/' then [] :: pieces rest
    else
      match pieces rest with
      | [] => [[c]]
      | piece :: more => (c :: piece) :: more

/-- The parts of a path. -/
def parts (path : Path) : List (List Char) :=
  (pieces path.text).filter fun piece => !piece.isEmpty && piece != ['.']

/-- A reversed text without the slashes and the single dots behind its last part. -/
def dropEnd : List Char → List Char
  | '/' :: rest => dropEnd rest
  | '.' :: '/' :: rest => dropEnd ('/' :: rest)
  | text => text

/-- A path that ends with its last part. -/
def trimmed (path : Path) : Path :=
  ⟨(dropEnd path.text.reverse).reverse⟩

/-- Whether something stands behind the last part, so that a path can lead to a directory only. -/
def endsOpen (path : Path) : Bool :=
  path.trimmed != path

/-! ## Places -/

/-- The most bytes that a file name can have. -/
def nameLimit : Nat := 255

/-- The most bytes that a path can have. -/
def pathLimit : Nat := 4095

/-- The number of bytes of a text. -/
def byteCount (text : List Char) : Nat :=
  (String.ofList text).utf8ByteSize

/-- Whether a file can be named by a part. -/
def namesFile (part : List Char) : Bool :=
  part != upward && decide (byteCount part ≤ nameLimit)

/-- Whether a path can be followed at all: it holds no null character and is not too long. -/
def isUsable (path : Path) : Bool :=
  !path.text.contains '\x00' && decide (byteCount path.text ≤ pathLimit)

/-- The place to which parts lead from the directory, the steps up in front of the name. -/
def placeOf? (steps : List (List Char)) : Option String :=
  match steps.reverse with
  | [] => none
  | name :: ups =>
    if namesFile name && ups.all (· == upward) then
      some (String.ofList (['/'].intercalate steps))
    else none

/-- The parts of a path as steps from the directory. A path whose first part is another one than the
placeholder leads to what stands beside the directory. -/
def steps (path : Path) : List (List Char) :=
  match path.parts with
  | [] => []
  | first :: rest => if first = start then rest else upward :: first :: rest

/-- The place of the file that a path leads to, if there can be one: its name, behind the steps up
that lead there. -/
def place? (path : Path) : Option String :=
  if path.isUsable && !path.endsOpen && path.text.head? != some '/' then placeOf? path.steps
  else none

/-! ## Extensions -/

/-- The part of a text up to the last slash, and what follows it. -/
def splitLast (text : List Char) : List Char × List Char :=
  let isName := fun c => c != '/'
  ((text.reverse.dropWhile isName).reverse, (text.reverse.takeWhile isName).reverse)

/-- A file name without its extension: without the last dot and what follows it, unless that dot is
the first character. -/
def stem (name : List Char) : List Char :=
  match name.reverse.dropWhile (· != '.') with
  | [] => name
  | [_] => name
  | _ :: before => before.reverse

/-- The path to a file of the same name with another extension. The old extension is taken off
first; where that leaves two dots, there is no file name any more and nothing is put on. A path
without a file name stays as it is. -/
def withExtension (extension : List Char) (path : Path) : Path :=
  let (folder, name) := splitLast path.trimmed.text
  if name.isEmpty || name = upward then path
  else if stem name = ['.'] && !path.endsOpen then ⟨folder ++ upward⟩
  else ⟨folder ++ stem name ++ '.' :: extension⟩

end Path

end ScriptHost
