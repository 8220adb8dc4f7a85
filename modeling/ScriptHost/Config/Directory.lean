import ScriptHost.Config.Basic
import ScriptHost.Config.Path

/-!
# Settings in files

A directory holds files by their places. Saving settings writes them to a temporary file first,
which has the name of the file with another extension, and then moves that file to its place; so a
reader finds the old settings or the new ones. What stood at the place of the temporary file is
lost.

## Main definitions

* `ScriptHost.Directory` — files by place.
* `ScriptHost.Config.temporaryPath` — the path under which settings are written first.
* `ScriptHost.Config.save`, `ScriptHost.Config.load` — writing settings to a file and reading them.
-/

namespace ScriptHost

/-- The files of a directory by place. The place of a file in the directory itself is its name. -/
abbrev Directory := Dict String (List UInt8)

/-- Why a file could not be used. The directory itself is not named in the wording. -/
inductive FileFault where
  /-- The file could not be read. -/
  | notRead (path : Path)
  /-- The contents are no settings. -/
  | notSettings
  /-- The temporary file could not be made. -/
  | notCreated (path : Path)
  /-- The temporary file could not be moved to its place. -/
  | notMoved (source target : Path)
deriving DecidableEq

/-- The wording of a file that could not be used. -/
def FileFault.message : FileFault → String
  | notRead path => "Failed to read config file: " ++ path.shown
  | notSettings => "Failed to deserialize config"
  | notCreated path => "Failed to create temp file: " ++ path.shown
  | notMoved source target => "Failed to rename " ++ source.shown ++ " to " ++ target.shown

/-- Why settings were not saved or loaded. -/
inductive StoreFault where
  /-- A file could not be used. -/
  | file (fault : FileFault)
  /-- The settings are refused. -/
  | config (fault : ConfigFault)
deriving DecidableEq

/-- Moves a file to another place, over the file that stands there. -/
def Directory.move (dir : Directory) (source target : String) : Directory :=
  match dir.get? source with
  | none => dir
  | some contents => (dir.erase source).insert target contents

namespace Config

/-- The bytes of the file that holds settings. -/
def fileBytes (config : Config) : List UInt8 :=
  Text.bytes config.toJson.pretty

/-- The path under which settings are written first. -/
def temporaryPath (path : Path) : Path :=
  path.withExtension ['t', 'm', 'p']

/-- Saves settings under a path; settings that are refused change nothing. When the temporary file
cannot be moved it stays. -/
def save (config : Config) (dir : Directory) (path : Path) :
    Except StoreFault Unit × Directory :=
  match config.check with
  | .error fault => (.error (.config fault), dir)
  | .ok () =>
    match (temporaryPath path).place? with
    | none => (.error (.file (.notCreated (temporaryPath path))), dir)
    | some temporary =>
      let written := dir.insert temporary config.fileBytes
      match path.place? with
      | none => (.error (.file (.notMoved (temporaryPath path) path)), written)
      | some place => (.ok (), Directory.move written temporary place)

/-- The contents of the file that a path leads to. -/
def contents? (dir : Directory) (path : Path) : Option (List UInt8) :=
  path.place?.bind dir.get?

/-- The settings saved under a path. -/
def load (dir : Directory) (path : Path) : Except StoreFault Config :=
  match contents? dir path with
  | none => .error (.file (.notRead path))
  | some contents =>
    match Config.ofBytes? contents with
    | none => .error (.file .notSettings)
    | some config =>
      match config.check with
      | .error fault => .error (.config fault)
      | .ok () => .ok config

end Config

end ScriptHost
