import Runbook.Host.Shell.Expansion

/-!
# Redirections

What redirections do to the streams of a command. All their words are expanded first. Then they are
carried out in their order, up to the first one that cannot be; afterwards every stream that was changed
is put back, unless the changes are to stay.
-/

namespace Runbook.Host.Shell

/-- A redirection whose words were expanded. -/
inductive Change where
  | file (stream : Nat) (direction : Direction) (path : String)
  /-- What another stream is; without one the stream is closed. -/
  | copy (stream : Nat) (other : Option Nat)
  | document (stream : Nat) (index : Nat)

namespace Change

/-- The stream that is changed, if it is. -/
def stream? : Change → Option Nat
  | file stream _ _ | document stream _ => some stream
  | copy stream other => if other = some stream then none else some stream

/-- Expands the words of a redirection. -/
def ofRedirection (output : Expansion.Output) : Redirection → Run Change
  | .file stream direction path => return .file stream direction (← Expansion.text output path)
  | .copy stream other => return .copy stream other
  | .document stream index => return .document stream index
  | .copyNamed stream word => do
    match Parser.copyOf? (← Expansion.text output word).toList with
    | some other => return .copy stream other
    | none =>
      Run.modify fun state => { state with toldLine := state.inputLine }
      Run.fail "Syntax error: Bad fd number"

/-- Why a file could not be opened; `absent` says that there is none. -/
def reason (absent : String) (refusal : Refusal) : String :=
  if refusal == .noEntry || refusal == .notDirectory then absent else refusal.text

/-- Opens a file, and gives its number. -/
def openFile (path : String) (opening : Machine.Opening) : Run Nat := do
  match ← Run.act (Act.update fun number machine => machine.openPath number path opening) with
  | .ok index => return index
  | .error refusal =>
    if opening.creates then
      Run.fail ("cannot create " ++ path ++ ": " ++ reason "Directory nonexistent" refusal)
    else Run.fail ("cannot open " ++ path ++ ": " ++ reason "No such file" refusal)

/-- Opens a file to write to it, unless this would spoil one that is to be kept. -/
def openKeeping (path : String) : Run Nat := do
  let spoils : Run Nat := Run.fail ("cannot create " ++ path ++ ": " ++ Refusal.exists.text)
  match ← Run.act (Act.status path) with
  | .error _ =>
    let isLink ← Run.act (Act.look fun number machine =>
      (machine.files.find (machine.directory number) path false).isOk)
    if isLink then spoils else openFile path { writes := true, creates := true }
  | .ok (_, node) => if node.isRegular then spoils else openFile path { writes := true }

/-- Opens the file of a redirection. -/
def openIn (direction : Direction) (path : String) : Run Nat := do
  match direction with
  | .read => openFile path .reading
  | .readWrite => openFile path { reads := true, writes := true, creates := true }
  | .append => openFile path { writes := true, creates := true, appends := true }
  | .overwrite => openFile path .writing
  | .write => if (← Run.state).has 'C' then openKeeping path else openFile path .writing

/-- The text that is given to a command. -/
def documentText (output : Expansion.Output) (index : Nat) : Run String := do
  match (← Run.state).documents[index]? with
  | some found => Expansion.quotedText output found.body
  | none => return ""

/-- Carries out a redirection. -/
def perform (output : Expansion.Output) : Change → Run Unit
  | file stream direction path => do Run.setStream stream (some (← openIn direction path))
  | copy stream none => Run.setStream stream none
  | copy stream (some other) => do
    if stream = other then return
    let found := (← Run.descriptors).find? (·.1 == other)
    if found.isNone then
      Run.fail (toString other ++ ": " ++ Refusal.badDescriptor.text)
    Run.setStream stream (found.map (·.2))
  | document stream index => do
    let text ← documentText output index
    let index ← Run.act (Act.update fun _ machine =>
      let ((reading, _), machine) := machine.addPipe (.ofOctets text)
      (reading, machine))
    Run.setStream stream (some index)

/-- Runs with changed streams. What is run is told whether all changes were made, and what the streams
were before. The changes may stay; they do not if the shell ends, or at a mistake. -/
def around (output : Expansion.Output) (changes : List Change) (mayStay : Bool)
    (run : Bool → Descriptors → Run Nat) : Run Nat := do
  if changes.isEmpty then return ← run true []
  let streams := changes.filterMap stream?
  let before := (← Run.descriptors).filter fun descriptor => streams.contains descriptor.1
  Run.hold before
  let result ← Run.attempt do
    match ← Run.attempt (changes.forM (perform output)) with
    | .ok () => run true before
    | .error .failure => run false before
    | .error reason => Run.stop reason
  let goesOn := match result with
    | .ok _ => true
    | .error reason => reason.isSkip
  if !(mayStay && goesOn) then
    streams.forM fun stream => Run.setStream stream ((before.find? (·.1 == stream)).map (·.2))
  Run.letGo
  Run.resume result

end Change

end Runbook.Host.Shell
