import Runbook.Config.Document
import Runbook.Path

/-!
# Configurations in files

* `Config.candidates` are the paths at which a configuration for a directory may be: in the directory
  itself and in its parents, which are found from the path alone, and in each under one of two names.
* `Config.find?` goes up from a directory until there is something under one of the names.
  `Config.discover` reads this file, and no other.
* A relative working directory in a file is meant from the directory of that file.
-/

namespace Runbook

/-- What can be asked of files by their paths. -/
structure FileView where
  /-- There is something at the path. -/
  has : String → Bool
  /-- The contents of the file at the path. -/
  read : String → Except IoError Bytes

/-- The text of the file at a path. -/
def FileView.readText (files : FileView) (path : String) : Except IoError String := do
  match text? (← files.read path) with
  | .ok text => return text
  | .error _ => throw .notText

namespace Config

/-- The names of the files of a configuration, in the order in which they are looked for. -/
def fileNames : List String := [".runs.json", "runs.json"]

/-- A name in a directory. -/
def inDirectory (directory : List Char) (name : String) : String :=
  String.ofList (Path.join directory name.toList)

/-- The paths at which a configuration may be, the nearest first. -/
def candidates (start : String) : List String :=
  (Path.ancestors start.toList).flatMap fun directory => fileNames.map (inDirectory directory)

/-- The path of a configuration in a directory, or else in the nearest of its parents that has one. -/
def search (files : FileView) (directory : List Char) : Option String :=
  match (fileNames.map (inDirectory directory)).find? files.has with
  | some path => some path
  | none =>
    match _h : Path.parent? directory with
    | some parent => search files parent
    | none => none
termination_by directory.length
decreasing_by exact Path.parent?_length_lt _h

/-- The nearest path at which there is something. -/
def find? (files : FileView) (start : String) : Option String := search files start.toList

/-- A working directory, as seen from the directory of a file. -/
def besides (path cwd : String) : String :=
  match Path.parent? path.toList with
  | some parent => String.ofList (Path.join parent cwd.toList)
  | none => cwd

/-- The configuration in a file. -/
def load (files : FileView) (path : String) : Except Error Config :=
  match files.readText path with
  | .error error => .error (.io error)
  | .ok text =>
    match read? text with
    | none => .error (.badConfig path)
    | some config => .ok { config with cwd := config.cwd.map (besides path) }

/-- The nearest configuration, or none of the settings. -/
def discover (files : FileView) (start : String) : Except Error Config :=
  match find? files start with
  | some path => load files path
  | none => .ok {}

end Config

end Runbook
