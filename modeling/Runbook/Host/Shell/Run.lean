import Runbook.Host.Shell.State
import Runbook.Host.Utility.Numeral
import Runbook.Host.Utility.Options

/-!
# What a shell does

A `Run` is a part of what a shell does, with a result. It may end early by a `Stop`: by a mistake, by the
end of the shell, or because a loop or a function ends.

* `Run.warn` tells what is wrong; `Run.fail` tells it, and stops.
* `Run.fork` starts a copy of the shell.
* `Run.awaitTeam` waits for processes that were started together.
-/

namespace Runbook.Host.Shell

/-- Why a shell does not go on with what comes next. -/
inductive Stop where
  /-- A mistake. -/
  | failure
  /-- The shell ends, by its command for that or because there is nothing more to do. -/
  | departure (isAsked : Bool)
  /-- Loops end. -/
  | breaks (loops : Nat)
  /-- A loop goes on with its next round, when the loops within it have ended. -/
  | continues (loops : Nat)
  /-- A function or a script ends, with a status that was given or with that of the last command. -/
  | returns (isGiven : Bool)
  deriving DecidableEq, Repr

namespace Stop

/-- The shell goes on, but not with what comes next. -/
def isSkip : Stop → Bool
  | breaks _ | continues _ | returns _ => true
  | _ => false

end Stop

/-- What a shell does. -/
def Run (α : Type) : Type := State → (Except Stop α → State → Program) → Program

namespace Run

instance : Monad Run where
  pure a := fun state next => next (.ok a) state
  bind run then' := fun state next => run state fun result state =>
    match result with
    | .ok a => then' a state next
    | .error stop => next (.error stop) state

instance {α : Type} : Inhabited (Run α) := ⟨fun state next => next (.error (.departure false)) state⟩

/-- Stops. -/
def stop {α : Type} (reason : Stop) : Run α := fun state next => next (.error reason) state

/-- What comes of a run, whether it stops or not. -/
def attempt {α : Type} (run : Run α) : Run (Except Stop α) := fun state next =>
  run state fun result state => next (.ok result) state

/-- Goes on with what came of a run. -/
def resume {α : Type} : Except Stop α → Run α
  | .ok a => return a
  | .error reason => stop reason

/-- Runs something afterwards, whether there was a stop or not. -/
def andFinally {α : Type} (run : Run α) (after : Run Unit) : Run α := do
  let result ← attempt run
  after
  resume result

/-- The state. -/
def state : Run State := fun state next => next (.ok state) state

/-- Changes the state. -/
def modify (change : State → State) : Run Unit := fun state next => next (.ok ()) (change state)

/-- Changes the state, and gives a result. -/
def update {α : Type} (change : State → α × State) : Run α := fun state next =>
  let (a, state) := change state
  next (.ok a) state

/-- What the process of the shell does. -/
def act {α : Type} (act : Act α) : Run α := fun state next =>
  act state.number fun a => next (.ok a) state

instance {α : Type} : Coe (Act α) (Run α) := ⟨act⟩

/-- Starts a copy of the shell, and gives the number of its process. -/
def fork (child : Run Nat) : Run Nat := fun state next =>
  .fork (fun number => child { state with number } fun result state =>
      .finish (.exit (result.toOption.getD state.status)))
    (fun number => next (.ok number) state)

/-- The process is another program from now on. -/
def become {α : Type} (program : Act Nat) : Run α := fun state _ =>
  program state.number fun status => .finish (.exit status)

/-! ## Messages -/

/-- Writes to standard error. -/
def tell (text : String) : Run Unit := act (Utility.tell text)

/-- Tells what is wrong. -/
def warn (text : String) : Run Unit := do
  let state ← state
  let command := (state.commandName.map (· ++ ": ")).getD ""
  tell (state.name ++ ": " ++ toString state.toldLine ++ ": " ++ command ++ text ++ "\n")

/-- Sets the status of the last command. -/
def setStatus (status : Nat) : Run Unit := modify fun state => { state with status }

/-- The status after a mistake. -/
def mistakeStatus : Nat := 2

/-- Tells what is wrong, and stops. -/
def fail {α : Type} (text : String) : Run α := do
  setStatus mistakeStatus
  warn text
  stop .failure

/-- Writes what a command prints. -/
def print (text : String) : Run Nat := do
  if text.isEmpty then return 0
  match ← act (Act.tryWrite 1 text) with
  | .ok () => return 0
  | .error _ =>
    let state ← state
    warn ((state.commandName.getD "") ++ ": I/O error")
    return 1

/-! ## Variables -/

/-- The variable keeps its value. -/
def refuseChange {α : Type} (name : String) : Run α := fail (name ++ ": is read only")

/-- The whole number of a text, if it is one that a command takes. -/
def number? (text : String) : Option Nat :=
  match Numeral.read .decimal text.toList with
  | some (value, rest) =>
    if rest.all isSpace && 0 ≤ value && value < (Nat.pow 2 31 : Nat) then some value.toNat else none
  | none => none

/-- The whole number of a text. It must be one that a command takes. -/
def number (text : String) : Run Nat :=
  match number? text with
  | some n => return n
  | none => fail ("Illegal number: " ++ text)

/-- What else changes with a variable. -/
def noteChange (name : String) (value : Option String) : Run Unit := do
  if name = "PATH" then modify fun state => { state with places := [] }
  else if name = "OPTIND" then
    let index ← number (value.getD "")
    modify fun state => { state with optionIndex := max index 1, optionOffset := none }

/-- Gives a variable a value. -/
def assign (name value : String) : Run Unit := do
  let state ← state
  match state.table.set name value (state.has 'a') with
  | none => refuseChange name
  | some table =>
    noteChange name (some value)
    modify fun state => { state with table }

/-- Gives a variable a value for programs, too. -/
def assignExported (name value : String) : Run Unit := do
  assign name value
  modify fun state => { state with table := state.table.map fun found =>
    if found.name = name then { found with isExported := true } else found }

/-- Takes the value of a variable away. -/
def unset (name : String) : Run Unit := do
  match (← state).table.clear name with
  | none => refuseChange name
  | some table =>
    if name = "PATH" then modify fun state => { state with places := [] }
    modify fun state => { state with table }

/-- Fails unless a text is the name of a variable. -/
def checkName (name : String) : Run Unit := do
  if !isName name.toList then fail (name ++ ": bad variable name")

/-- Keeps what a variable is in the innermost frame, to be put back later. A variable that is new stays
in the table until then. -/
def save (name : String) : Run Unit := modify fun state =>
  let before := state.table.find? name
  let entry : Variable := before.getD ⟨name, none, false, false, true⟩
  let frames := match state.frames with
    | [] => []
    | frame :: frames => (.variable name before :: frame) :: frames
  { state with frames, table := state.table.put { entry with stays := true } }

/-- Puts back what was kept in the innermost frame. -/
def leaveFrame : Run Unit := do
  let saved := (← state).frames.head?.getD []
  modify fun state => { state with frames := state.frames.tail }
  for entry in saved do
    match entry with
    | .switches before => modify fun state => { state with switches := before }
    | .variable name none =>
      checkName name
      modify fun state => { state with table := state.table.remove name }
    | .variable name (some before) =>
      if (← state).table.valueOf? name != before.value then noteChange name before.value
      modify fun state => { state with table := state.table.put before }

/-- Puts back what was kept in all frames but the outermost ones, of which the number is given. The
first argument bounds the number of frames. -/
def leaveFramesTo (kept : Nat) : Nat → Run Unit
  | 0 => return ()
  | steps + 1 => do
    if kept < (← state).frames.length then
      leaveFrame
      leaveFramesTo kept steps

/-- Runs with a frame of its own. The frame stays if the shell ends, and at a mistake. -/
def withFrame {α : Type} (run : Run α) : Run α := do
  modify fun state => { state with frames := [] :: state.frames }
  let result ← attempt run
  match result with
  | .ok _ => leaveFrame
  | .error reason => if reason.isSkip then leaveFrame
  resume result

/-! ## Processes -/

/-- Adds a process to a team. -/
def join (team process : Nat) : Run Unit := modify fun state =>
  state.modifyTeam team fun team => { team with members := team.members ++ [(process, none)] }

/-- The text of a signal that ended a process. -/
def signalText (signal : Nat) : String :=
  let table : List (Nat × String) := [
    (1, "Hangup"), (2, "Interrupt"), (3, "Quit"), (4, "Illegal instruction"),
    (5, "Trace/breakpoint trap"), (6, "Aborted"), (7, "Bus error"), (8, "Floating point exception"),
    (9, "Killed"), (10, "User defined signal 1"), (11, "Segmentation fault"),
    (12, "User defined signal 2"), (13, "Broken pipe"), (14, "Alarm clock"), (15, "Terminated"),
    (16, "Stack fault"), (17, "Child exited"), (18, "Continued"), (19, "Stopped (signal)"),
    (20, "Stopped"), (21, "Stopped (tty input)"), (22, "Stopped (tty output)"),
    (23, "Urgent I/O condition"), (24, "CPU time limit exceeded"), (25, "File size limit exceeded"),
    (26, "Virtual timer expired"), (27, "Profiling timer expired"), (28, "Window changed"),
    (29, "I/O possible"), (30, "Power failure"), (31, "Bad system call")]
  ((table.find? (·.1 == signal)).map (·.2)).getD
    (if signal < 34 then "Unknown signal " ++ toString signal
      else "Real-time signal " ++ toString (signal - 34))

/-- The signals by which a process may end without anybody being told. -/
def quietSignals : List Nat := [2, 13]

/-- Notes the end of a child, if one came to its end at least some time ago. The end of a member of the team that is waited for
is told if it came by a signal. Gives whether there was one. -/
def reap (awaited : Option Nat) (age : Nat) : Run Bool := do
  let ended ← act (Act.look fun number machine => machine.endedChild? number age)
  match ended with
  | none => return false
  | some (process, ending) =>
    act (Act.update fun _ machine => ((), machine.forget process))
    let team ← update fun state => state.noteEnding process ending
    match ending with
    | .signal signal =>
      if team.isSome && team == awaited && !quietSignals.contains signal then
        tell (signalText signal ++ "\n")
    | .exit _ => pure ()
    return true

/-- A bound for the number of children that come to their ends. -/
def childLimit : Nat := 1000000

/-- The process has children that did not come to their ends, or were not looked at. -/
def hasChildren : Run Bool :=
  act (Act.look fun number machine => machine.processes.any (·.parent == number))

/-- Waits until all of a team came to their ends. The first argument bounds the number of children. -/
def awaitMembers (team : Nat) : Nat → Run Unit
  | 0 => return ()
  | steps + 1 => do
    if ((← state).team? team).all Team.isDone then return
    if !(← hasChildren) then return
    act (Act.wait (fun number machine => (machine.endedChild? number 0).isSome) none)
    let _ ← reap (some team) 0
    awaitMembers team steps

/-- Waits for a team, which is forgotten then, and gives its status. -/
def awaitTeam (number : Nat) : Run Nat := do
  awaitMembers number childLimit
  let state ← state
  modify (·.withoutTeam number)
  return ((state.team? number).map Team.status).getD 0

/-- How long it takes until the end of a child can be seen without waiting for it, in nanoseconds. -/
def noticeTime : Nat := 200000

/-- Looks at all children that came to their ends. The argument bounds their number. -/
def reapAll : Nat → Run Unit
  | 0 => return ()
  | steps + 1 => do if ← reap none noticeTime then reapAll steps

/-! ## Streams -/

/-- The open files of the process. -/
def descriptors : Run Descriptors :=
  act (Act.look fun number machine => ((machine.process? number).map (·.descriptors)).getD [])

/-- Changes the open files of the process. -/
def modifyDescriptors (change : Descriptors → Descriptors) : Run Unit :=
  act (Act.change fun process => { process with descriptors := change process.descriptors })

/-- Makes a stream an open file, or closes it. -/
def setStream (stream : Nat) (opened : Option Nat) : Run Unit := modifyDescriptors fun descriptors =>
  match opened with
  | some index => Machine.install descriptors stream index
  | none => descriptors.filter (·.1 != stream)

/-- Keeps open files, so that they are there when they are put back. -/
def hold (descriptors : Descriptors) : Run Unit :=
  act (Act.change fun process => { process with held := descriptors :: process.held })

/-- Does not keep the last open files any longer. -/
def letGo : Run Unit := act (Act.change fun process => { process with held := process.held.tail })

end Run

end Runbook.Host.Shell
