import Runbook.Host.Shell.Builtin.Basic

/-!
# Commands of the shell: directories

The command that changes the directory, and the one that tells it. A shell knows its directory by the
path on which it came there, which may lead through links; `logical` follows such a path without a look
at the files.
-/

namespace Runbook.Host.Shell.Builtin

/-- Whether the options of a command ask for paths without links. An option counts if it is another one
than that before it. -/
def wantsPhysical (given : List Given) : Bool :=
  (given.foldl (fun (found : Bool × Char) option =>
    if option.1 = found.2 then found else (!found.1, option.1)) (false, 'L')).1

/-- The start of a path, and the names after it. -/
def pathParts (path : String) : String × List (List Char) :=
  let names := (cutAt '/' path.toList).filter (!·.isEmpty)
  match path.toList with
  | '/' :: '/' :: '/' :: _ => ("/", names)
  | '/' :: '/' :: _ => ("//", names)
  | '/' :: _ => ("/", names)
  | _ => ("", names)

/-- Goes along names from others, the last one first. -/
def goAlong : List (List Char) → List (List Char) → List (List Char)
  | at', [] => at'
  | at', ['.'] :: rest => goAlong at' rest
  | at', ['.', '.'] :: rest => goAlong at'.tail rest
  | at', name :: rest => goAlong (name :: at') rest

/-- The path to which another path leads from a directory. -/
def logical (directory path : String) : String :=
  let (start, names) := pathParts path
  let (start, names) :=
    if start.isEmpty then
      let (start, above) := pathParts directory
      (start, goAlong above.reverse names)
    else (start, goAlong [] names)
  start ++ "/".intercalate (names.reverse.map String.ofList)

/-- Makes a path the directory of the process, if there is a directory. -/
def moveTo (path : String) : Run Bool :=
  Run.act (Act.update fun number machine =>
    match machine.files.status (machine.directory number) path with
    | .ok (location, node) =>
      if node.isDirectory then
        (true, machine.modifyProcess number fun process => { process with directory := location })
      else (false, machine)
    | .error _ => (false, machine))

/-- Makes a path the directory of the shell. Gives whether this could be done. -/
def changeDirectory (isPhysical : Bool) (path : String) : Run Bool := do
  let before := (← Run.state).directory
  let target := logical before path
  if !(← moveTo (if isPhysical then path else target)) then return false
  Run.assignExported "OLDPWD" before
  let after ← if isPhysical then (·.toPath) <$> Run.act Act.directory else pure target
  Run.modify fun state => { state with directory := after }
  Run.assignExported "PWD" after
  Run.modify fun state => { state with
    places := state.places.map fun place => (place.1, { place.2 with isStale := true }) }
  return true

/-- The path is looked for only where it leads from the directory of the shell. -/
def isAnchored (path : String) : Bool :=
  match path.toList with
  | '/' :: _ | ['.'] | '.' :: '/' :: _ | ['.', '.'] | '.' :: '.' :: '/' :: _ => true
  | _ => false

/-- The first directory among some in which a path leads to a directory: that directory, and the path
there. -/
def findDirectory (path : String) : List String → Run (Option (String × String))
  | [] => return none
  | first :: rest => do
    let whole := Lookup.join first path
    match ← Run.act (Act.status whole) with
    | .ok (_, node) => if node.isDirectory then return some (first, whole) else findDirectory path rest
    | .error _ => findDirectory path rest

/-- Changes the directory. -/
def cd : Action := fun arguments => do
  let (given, operands) ← options "LP" arguments
  let state ← Run.state
  let (target, isBack) := match operands.head? with
    | none => ((state.valueOf? "HOME").getD "", false)
    | some "-" => ((state.valueOf? "OLDPWD").getD "", true)
    | some path => (path, false)
  let path := if target.isEmpty then "." else target
  let found ← match (state.valueOf? "CDPATH").filter fun _ => !isAnchored target with
    | none => pure none
    | some directories => findDirectory path (Lookup.directories directories)
  if !(← changeDirectory (wantsPhysical given) ((found.map (·.2)).getD path)) then
    Run.fail ("can't cd to " ++ path)
  if isBack || found.any (!·.1.isEmpty) then Run.print ((← Run.state).directory ++ "\n")
  else return 0

/-- Tells the directory. -/
def pwd : Action := fun arguments => do
  let (given, _) ← options "LP" arguments
  let path ← if wantsPhysical given then (·.toPath) <$> Run.act Act.directory
    else (·.directory) <$> Run.state
  Run.print (path ++ "\n")

end Runbook.Host.Shell.Builtin
