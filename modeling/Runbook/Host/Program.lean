import Runbook.Host.Machine

/-!
# Programs

A `Program` is what a process does from now on. It is a tree whose steps are functions of the machine,
so that the steps of several processes can follow each other in any order.

An `Act` is a part of a program with a result. Acts are composed in the order in which they are carried
out; what the process does afterwards is given to an act as a function of its result.
-/

namespace Runbook.Host

/-- What a process does from now on. -/
inductive Program where
  | finish (ending : Ending)
  /-- One step. -/
  | step (run : Machine → Program × Machine)
  /-- Nothing until the machine is ready or the time has come. -/
  | wait (ready : Machine → Bool) (deadline : Option Nat) (next : Program)
  /-- A child is started, which is given its number, as the process is. -/
  | fork (child next : Nat → Program)

/-- A part of a program with a result, as a function of the number of the process. -/
def Act (α : Type) : Type := Nat → (α → Program) → Program

namespace Act

instance : Monad Act where
  pure a := fun _ next => next a
  bind act then' := fun number next => act number fun a => then' a number next

/-- The number of the process. -/
def me : Act Nat := fun number next => next number

/-- Changes the machine. -/
def update {α : Type} (change : Nat → Machine → α × Machine) : Act α := fun number next =>
  .step fun machine =>
    let (a, machine) := change number machine
    (next a, machine)

/-- Looks at the machine. -/
def look {α : Type} (view : Nat → Machine → α) : Act α := fun number next =>
  .step fun machine => (next (view number machine), machine)

/-- Changes the process. -/
def change (change : Process → Process) : Act Unit :=
  update fun number machine => ((), machine.modifyProcess number change)

/-- Ends the process. -/
def finish {α : Type} (ending : Ending) : Act α := fun _ _ => .finish ending

/-- Lets time go by that the process is busy for. -/
def spend (nanoseconds : Nat) : Act Unit :=
  change fun process => { process with time := process.time + nanoseconds }

/-- Waits until the machine is ready, or until some time. -/
def wait (ready : Nat → Machine → Bool) (deadline : Option Nat) : Act Unit := fun number next =>
  .wait (ready number) deadline (next ())

/-- Starts a child, and gives its number. -/
def fork (child : Act Nat) : Act Nat := fun _ next =>
  .fork (fun number => child number fun status => .finish (.exit status)) next

/-- Does nothing for a while, unless a signal comes. -/
def sleep (nanoseconds : Nat) : Act Unit := do
  let time ← look fun number machine => ((machine.process? number).map (·.time)).getD 0
  wait (fun number machine => machine.isCalled number) (some (time + nanoseconds))

/-- Does nothing for ever, unless a signal comes. -/
def sleepForever : Act Unit := wait (fun number machine => machine.isCalled number) none

/-- The directory of the process. -/
def directory : Act Location := look fun number machine => machine.directory number

/-- The files. -/
def files : Act Files := look fun _ machine => machine.files

/-- Changes the files. -/
def changeFiles (change : Int → Files → Files) : Act Unit :=
  update fun _ machine => ((), { machine with files := change machine.now machine.files })

/-- What a path leads to. -/
def status (path : String) : Act (Except Refusal (Location × Node)) :=
  look fun number machine => machine.files.status (machine.directory number) path

/-- Writes octets, if it can be done. -/
def tryWrite (descriptor : Nat) (octets : String) : Act (Except Refusal Unit) :=
  fun number next => .step fun machine =>
    let (result, machine) := machine.write number descriptor octets
    if machine.isAlive number then (next result, machine) else (.finish (.signal 13), machine)

/-- Waits until there is something to read. -/
def awaitInput (descriptor : Nat) : Act Unit :=
  wait (fun number machine => machine.canRead number descriptor) none

/-- Reads what there is, at least something unless the end is reached. -/
def read (descriptor : Nat) : Act (Except Refusal String) := do
  awaitInput descriptor
  update fun number machine => machine.take number descriptor

/-- Reads up to the end of the input. The first argument bounds the number of pieces. -/
def readPieces (descriptor : Nat) : Nat → List String → Act (Except Refusal String)
  | 0, pieces => return .ok (String.join pieces.reverse)
  | steps + 1, pieces => do
    match ← read descriptor with
    | .error refusal => return .error refusal
    | .ok piece =>
      if piece.isEmpty then return .ok (String.join pieces.reverse)
      else readPieces descriptor steps (piece :: pieces)

/-- The number of pieces that are read at most. -/
def pieceLimit : Nat := 1000000

/-- Reads up to the end of the input. -/
def readAll (descriptor : Nat) : Act (Except Refusal String) := readPieces descriptor pieceLimit []

/-- Opens a file under a number. -/
def openAt (descriptor : Nat) (path : String) (opening : Machine.Opening) : Act (Except Refusal Unit) :=
  update fun number machine =>
    match machine.openPath number path opening with
    | (.error refusal, machine) => (.error refusal, machine)
    | (.ok index, machine) =>
      (.ok (), machine.modifyProcess number fun process =>
        { process with descriptors := Machine.install process.descriptors descriptor index })

/-- The number under which programs open files of their own. Shells leave it free. -/
def fileDescriptor : Nat := 255

/-- Closes a file. -/
def close (descriptor : Nat) : Act Unit :=
  change fun process =>
    { process with descriptors := process.descriptors.filter (·.1 != descriptor) }

end Act

/-- A program that was started: its arguments, the name first, and its variables. -/
structure Job where
  arguments : List String
  /-- The variables, each name once. -/
  environment : List (String × String)
  deriving Repr

namespace Job

/-- The name under which the program was started. -/
def name (job : Job) : String := job.arguments.head?.getD ""

/-- The arguments without the name. -/
def operands (job : Job) : List String := job.arguments.tail

/-- The value of a variable. -/
def valueOf? (job : Job) (name : String) : Option String :=
  (job.environment.find? (·.1 == name)).map (·.2)

/-- The names of the character sets in which several octets may be one character. -/
def wideLocales : List String := ["C.UTF-8", "C.utf8"]

/-- Octets are characters in UTF-8; otherwise each octet is a character. -/
def isWide (job : Job) : Bool :=
  let values := ["LC_ALL", "LC_CTYPE", "LANG"].filterMap job.valueOf?
  (values.find? (!·.isEmpty)).any wideLocales.contains

end Job

end Runbook.Host
