import Runbook.Host.Shell.Run

/-!
# Finding commands

What the name of a command stands for: a function, a command of the shell itself, or a program that is
looked for in directories. Where a program was found is remembered as long as the list of the
directories stays the same.
-/

namespace Runbook.Host.Shell

/-- A command of the shell itself. -/
structure Native where
  name : String
  /-- It is found before functions, and a mistake in it ends the shell. -/
  isSpecial : Bool
  /-- Its arguments may be assignments. -/
  takesAssignments : Bool
  deriving DecidableEq, Repr

namespace Native

/-- The names of the commands of the shell that are not special. -/
def plainNames : List String :=
  ["alias", "bg", "cd", "chdir", "command", "echo", "false", "fg", "getopts", "hash", "jobs", "kill",
    "printf", "pwd", "read", "test", "[", "true", "type", "ulimit", "umask", "unalias", "wait"]

/-- The commands of the shell whose arguments may be assignments. -/
def assigning : List String := ["alias", "export", "local", "readonly"]

/-- The command of the shell with a name. -/
def find? (name : String) : Option Native :=
  let isSpecial := specialNames.contains name
  if isSpecial || plainNames.contains name then
    some ⟨name, isSpecial, assigning.contains name⟩
  else none

end Native

/-- What a name stands for. -/
inductive Found where
  | native (native : Native)
  | function (function : Function)
  /-- A program, and the place of its directory among those that are looked through; none if the name
  is a path. -/
  | program (index : Option Nat)
  | nothing (refusal : Refusal)

namespace Lookup

/-- The directories of a list. -/
def directories (path : String) : List String := (cutAt ':' path.toList).map String.ofList

/-- The path of a name in a directory. -/
def join (directory name : String) : String :=
  if directory.isEmpty then name else directory ++ "/" ++ name

/-- The path of a name in the directory at a place. -/
def pathAt (path : String) (index : Nat) (name : String) : String :=
  join ((directories path)[index]?.getD "") name

/-- The directories in which programs are looked for if nothing is said. -/
def defaultPath : String := "/usr/local/sbin:/usr/local/bin:/usr/sbin:/usr/bin:/sbin:/bin"

/-- The refusal means that there is nothing. -/
def isAbsent (refusal : Refusal) : Bool := refusal == .noEntry || refusal == .notDirectory

/-- The place of the first directory, counted from a number, that has a program of a name. -/
def search (files : Files) (directory : Location) (name : String) :
    Nat → Refusal → List String → Except Refusal Nat
  | _, refusal, [] => .error refusal
  | index, refusal, first :: rest =>
    match files.status directory (join first name) with
    | .error found =>
      search files directory name (index + 1) (if isAbsent found then refusal else found) rest
    | .ok (_, node) =>
      if node.isRegular && node.isExecutable then .ok index
      else search files directory name (index + 1) .denied rest

/-- The text of a refusal to start a program. -/
def text (refusal : Refusal) : String := if isAbsent refusal then "not found" else refusal.text

/-- What the shell itself knows under a name. -/
def known (state : State) (withFunctions : Bool) (name : String) : Option Found :=
  let function := if withFunctions then state.functions.find? (·.1 == name) else none
  match function, Native.find? name with
  | some function, _ => some (.function function.2)
  | none, some native => some (.native native)
  | none, none => none

/-- Looks for a program. What is found in the usual directories is remembered. -/
def program (path : Option String) (name : String) : Run Found := do
  if name.toList.contains '/' then return .program none
  let state ← Run.state
  match (state.places.find? (·.1 == name)).filter fun entry => path.isNone && !entry.2.isStale with
  | some (_, place) => return .program (some place.index)
  | none =>
    let directory ← Run.act Act.directory
    let found := search (← Run.act Act.files) directory name 0 .noEntry
      (directories (path.getD state.path))
    let others := state.places.filter (·.1 != name)
    match found with
    | .ok index =>
      if path.isNone then
        Run.modify fun state => { state with places := others ++ [(name, ⟨index, false⟩)] }
      return .program (some index)
    | .error refusal =>
      if path.isNone then Run.modify fun state => { state with places := others }
      return .nothing refusal

/-- What a name stands for. -/
def find (withFunctions : Bool) (path : Option String) (name : String) : Run Found := do
  match known (← Run.state) withFunctions name with
  | some found => return found
  | none => program path name

/-- Tells that nothing was found. -/
def warn (name : String) (refusal : Refusal) : Run Unit := Run.warn (name ++ ": " ++ text refusal)

end Lookup

end Runbook.Host.Shell
