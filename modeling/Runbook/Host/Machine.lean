import Runbook.Host.Files

/-!
# Machines

What processes share: the files, the pipes, the files that are open, the processes themselves and a
clock.

* A process has open files by their numbers. Which ends of a pipe are still held is found out from the
  processes that go on, and is not counted anywhere else.
* `Machine.canRead` says that a process need not wait before it reads; `Machine.take` reads.
* `Machine.write` refuses to write into a pipe that nobody can read any more.
* `Machine.signal` sends a signal. A process ends by it, unless it ignores the signal or expects it.
-/

namespace Runbook.Host

/-- What an open file leads to. -/
inductive Target where
  | node (number : Nat)
  | pipe (number : Nat)
  deriving DecidableEq, Repr

/-- A file that is open. -/
structure Opened where
  target : Target
  /-- How many octets were read or written before. -/
  offset : Nat
  reads : Bool
  writes : Bool
  /-- Everything is written at the end. -/
  appends : Bool
  deriving Repr

/-- The octets that were written into a pipe and not read yet. -/
structure Pipe where
  front : List Char
  /-- What comes after them, the last piece first. -/
  back : List String

namespace Pipe

/-- An empty pipe. -/
def empty : Pipe := ⟨[], []⟩

/-- A pipe that holds octets. -/
def ofOctets (octets : String) : Pipe := ⟨[], [octets]⟩

/-- There is nothing in the pipe. -/
def isEmpty (pipe : Pipe) : Bool := pipe.front.isEmpty && pipe.back.all String.isEmpty

/-- Everything in the pipe. -/
def contents (pipe : Pipe) : List Char :=
  if pipe.back.isEmpty then pipe.front else pipe.front ++ (String.join pipe.back.reverse).toList

/-- Writes into the pipe. -/
def push (pipe : Pipe) (octets : String) : Pipe := { pipe with back := octets :: pipe.back }

end Pipe

/-- How a process came to its end. -/
inductive Ending where
  | exit (status : Nat)
  | signal (number : Nat)
  deriving DecidableEq, Repr

namespace Ending

/-- The status that a shell makes of an ending. -/
def status : Ending → Nat
  | exit status => status % 256
  | signal number => 128 + number

end Ending

/-- The open files of a process, by their numbers. -/
abbrev Descriptors := List (Nat × Nat)

/-- A process. -/
structure Process where
  number : Nat
  parent : Nat
  descriptors : Descriptors
  /-- Open files that are put aside, to be put back later. -/
  held : List Descriptors
  directory : Location
  /-- What others may not do with new files. -/
  mask : Nat
  ignored : List Nat
  expected : List Nat
  /-- The expected signals that came and were not looked at yet. -/
  pending : List Nat
  /-- Up to when the process has run. -/
  time : Nat
  ending : Option Ending
  /-- The bounds of the process by their letters, as far as they were changed. -/
  bounds : List (Char × Option Nat)

/-- The process with a signal that it expects. It looks at each signal once, however often it came. -/
def Process.expecting (process : Process) (signal : Nat) : Process :=
  if process.pending.contains signal then process
  else { process with pending := process.pending ++ [signal] }

/-- What processes share. -/
structure Machine where
  files : Files
  pipes : Array Pipe
  opened : Array Opened
  processes : List Process
  /-- The time in nanoseconds. -/
  clock : Nat
  /-- The number of the next process. -/
  next : Nat

namespace Machine

/-! ## Processes -/

/-- The process with a number. -/
def process? (machine : Machine) (number : Nat) : Option Process :=
  machine.processes.find? (·.number == number)

/-- Changes a process. -/
def modifyProcess (machine : Machine) (number : Nat) (change : Process → Process) : Machine :=
  { machine with processes := machine.processes.map fun process =>
      if process.number = number then change process else process }

/-- The directory of a process. -/
def directory (machine : Machine) (number : Nat) : Location :=
  ((machine.process? number).map (·.directory)).getD []

/-- The process goes on. -/
def isAlive (machine : Machine) (number : Nat) : Bool :=
  (machine.process? number).any fun process => process.ending.isNone

/-- The signal that tells a process of the end of a child. -/
def childSignal : Nat := 17

/-- Ends a process. Nothing is held by it any more, and its parent is told of it if it expects this. -/
def finish (machine : Machine) (number : Nat) (ending : Ending) : Machine :=
  let parent := ((machine.process? number).map (·.parent)).getD 0
  let time := machine.clock
  let machine := machine.modifyProcess number fun process =>
    { process with ending := some ending, time, descriptors := [], held := [] }
  machine.modifyProcess parent fun process =>
    if process.ending.isNone && process.expected.contains childSignal then
      process.expecting childSignal
    else process

/-- The copy of a process that becomes its child. -/
def fork (machine : Machine) (number : Nat) : Machine :=
  match machine.process? number with
  | none => machine
  | some process =>
    { machine with
      processes := machine.processes ++
        [{ process with number := machine.next, parent := number, pending := [] }]
      next := machine.next + 1 }

/-- Forgets a process that came to its end. -/
def forget (machine : Machine) (number : Nat) : Machine :=
  { machine with processes := machine.processes.filter (·.number != number) }

/-! ## Signals -/

/-- The signals that do nothing to a process that does not expect them. -/
def harmless : List Nat := [0, 17, 18, 23, 28]

/-- The signals that a process cannot keep off. -/
def irresistible : List Nat := [9, 19]

/-- Sends a signal to a process. -/
def signal (machine : Machine) (number signal : Nat) : Machine :=
  match machine.process? number with
  | none => machine
  | some process =>
    if process.ending.isSome then machine
    else if !irresistible.contains signal && process.ignored.contains signal then machine
    else if !irresistible.contains signal && process.expected.contains signal then
      machine.modifyProcess number (·.expecting signal)
    else if harmless.contains signal then machine
    else machine.finish number (.signal signal)

/-- The process has to look at a signal. -/
def isCalled (machine : Machine) (number : Nat) : Bool :=
  (machine.process? number).any fun process => !process.pending.isEmpty

/-! ## Open files -/

/-- A child of a process that came to its end at least some time ago. -/
def endedChild? (machine : Machine) (number age : Nat) : Option (Nat × Ending) :=
  machine.processes.findSome? fun process =>
    if process.parent = number && process.time + age ≤ machine.clock then
      process.ending.map (process.number, ·)
    else none

/-- The numbers of the open files that a process holds. -/
def heldBy (process : Process) : List Nat :=
  (process.descriptors ++ process.held.flatten).map (·.2)

/-- A process that goes on holds an open file with a property. -/
def anyHeld (machine : Machine) (property : Opened → Bool) : Bool :=
  machine.processes.any fun process => process.ending.isNone &&
    (heldBy process).any fun number => machine.opened[number]?.any property

/-- Somebody can still write into a pipe. -/
def hasWriter (machine : Machine) (pipe : Nat) : Bool :=
  machine.anyHeld fun opened => opened.target == .pipe pipe && opened.writes

/-- Somebody can still read from a pipe. -/
def hasReader (machine : Machine) (pipe : Nat) : Bool :=
  machine.anyHeld fun opened => opened.target == .pipe pipe && opened.reads

/-- The number of the open file that a process has under a number. -/
def descriptor? (machine : Machine) (number descriptor : Nat) : Option Nat := do
  let process ← machine.process? number
  return (← process.descriptors.find? (·.1 == descriptor)).2

/-- The open file that a process has under a number. -/
def opened? (machine : Machine) (number descriptor : Nat) : Option (Nat × Opened) := do
  let index ← machine.descriptor? number descriptor
  return (index, ← machine.opened[index]?)

/-- The pipe with a number. -/
def pipe (machine : Machine) (number : Nat) : Pipe := machine.pipes.getD number .empty

/-- Adds an open file, and gives its number. -/
def addOpened (machine : Machine) (opened : Opened) : Nat × Machine :=
  (machine.opened.size, { machine with opened := machine.opened.push opened })

/-- Adds a pipe, and gives the numbers of its ends, that for reading first. -/
def addPipe (machine : Machine) (pipe : Pipe) : (Nat × Nat) × Machine :=
  let target := Target.pipe machine.pipes.size
  let machine := { machine with pipes := machine.pipes.push pipe }
  let (reading, machine) := machine.addOpened ⟨target, 0, true, false, false⟩
  let (writing, machine) := machine.addOpened ⟨target, 0, false, true, false⟩
  ((reading, writing), machine)

/-- Descriptors with one more, in place of what there was under its number. -/
def install (descriptors : Descriptors) (descriptor opened : Nat) : Descriptors :=
  (descriptor, opened) :: descriptors.filter (·.1 != descriptor)

/-! ## Reading and writing -/

/-- Sets how far an open file was read or written. -/
def advance (machine : Machine) (index offset : Nat) : Machine :=
  { machine with opened := machine.opened.modify index ({ · with offset }) }

/-- A process need not wait before it reads. -/
def canRead (machine : Machine) (number descriptor : Nat) : Bool :=
  match machine.opened? number descriptor with
  | some (_, opened) =>
    match opened.target with
    | .node _ => true
    | .pipe pipe => !(machine.pipe pipe).isEmpty || !machine.hasWriter pipe
  | none => true

/-- A process need not wait before it reads a line. -/
def canReadLine (machine : Machine) (number descriptor : Nat) : Bool :=
  match machine.opened? number descriptor with
  | some (_, opened) =>
    match opened.target with
    | .node _ => true
    | .pipe pipe => (machine.pipe pipe).contents.contains '\n' || !machine.hasWriter pipe
  | none => true

/-- Reads as much as `split` takes; the second part of what it gives stays. -/
def takeSplit (machine : Machine) (number descriptor : Nat)
    (split : List Char → List Char × List Char) : Except Refusal (List Char) × Machine :=
  match machine.opened? number descriptor with
  | none => (.error .badDescriptor, machine)
  | some (index, opened) =>
    if !opened.reads then (.error .badDescriptor, machine)
    else
      match opened.target with
      | .node node =>
        let node := machine.files.node node
        if node.isDirectory then (.error .isDirectory, machine)
        else
          let (taken, _) := split (node.octets.toList.drop opened.offset)
          (.ok taken, machine.advance index (opened.offset + taken.length))
      | .pipe pipe =>
        let (taken, rest) := split (machine.pipe pipe).contents
        (.ok taken, { machine with pipes := machine.pipes.set! pipe ⟨rest, []⟩ })

/-- Reads everything that there is. -/
def take (machine : Machine) (number descriptor : Nat) : Except Refusal String × Machine :=
  let (taken, machine) := machine.takeSplit number descriptor fun text => (text, [])
  (taken.map String.ofList, machine)

/-- The text up to the end of its first line, and the rest. -/
def splitLine : List Char → List Char × List Char
  | [] => ([], [])
  | '\n' :: rest => (['\n'], rest)
  | c :: rest =>
    let (line, rest) := splitLine rest
    (c :: line, rest)

/-- Reads one line with its end. -/
def takeLine (machine : Machine) (number descriptor : Nat) : Except Refusal (List Char) × Machine :=
  machine.takeSplit number descriptor splitLine

/-- Octets with others in their midst. -/
def overwrite (old : String) (offset : Nat) (new : String) : String :=
  let length := old.length
  if offset = length then old ++ new
  else if length < offset then
    old ++ String.ofList (List.replicate (offset - length) '\x00') ++ new
  else
    let old := old.toList
    String.ofList (old.take offset) ++ new ++ String.ofList (old.drop (offset + new.length))

/-- The time for files at the start, in nanoseconds since the beginning of 1970. -/
def startTime : Int := 1700000000000000000

/-- The time for files, in nanoseconds since the beginning of 1970. -/
def now (machine : Machine) : Int := startTime + machine.clock

/-- Writes octets to an open file. -/
def writeOpened (machine : Machine) (number index : Nat) (octets : String) :
    Except Refusal Unit × Machine :=
  match machine.opened[index]? with
  | none => (.error .badDescriptor, machine)
  | some opened =>
    if !opened.writes then (.error .badDescriptor, machine)
    else if octets.isEmpty then (.ok (), machine)
    else
      match opened.target with
      | .node node =>
        let old := machine.files.node node
        if old.content = .full then (.error .noSpace, machine)
        else
          let offset := if opened.appends then old.octets.length else opened.offset
          let time := machine.now
          let files := machine.files.modify node fun node =>
            Files.filled node (overwrite node.octets offset octets) time
          (.ok (), { machine with files }.advance index (offset + octets.length))
      | .pipe pipe =>
        if machine.hasReader pipe then
          (.ok (), { machine with pipes := machine.pipes.modify pipe (·.push octets) })
        else (.error .brokenPipe, machine.signal number 13)

/-- Writes octets. -/
def write (machine : Machine) (number descriptor : Nat) (octets : String) :
    Except Refusal Unit × Machine :=
  match machine.descriptor? number descriptor with
  | none => (.error .badDescriptor, machine)
  | some index => machine.writeOpened number index octets

/-! ## Opening -/

/-- How a file is opened. -/
structure Opening where
  reads : Bool := false
  writes : Bool := false
  appends : Bool := false
  /-- A file that is not there is made. -/
  creates : Bool := false
  truncates : Bool := false
  /-- There must be no regular file. -/
  fresh : Bool := false

/-- To read. -/
def Opening.reading : Opening := { reads := true }

/-- To write from the beginning. -/
def Opening.writing : Opening := { writes := true, creates := true, truncates := true }

/-- The stream of a process that a location stands for. -/
def ownStream? : Location → Option Nat
  | ["dev", "stdin"] => some 0
  | ["dev", "stdout"] => some 1
  | ["dev", "stderr"] => some 2
  | ["dev", "fd", name] | ["proc", "self", "fd", name] => name.toNat?
  | _ => none

/-- Opens a node. -/
def openNode (machine : Machine) (number : Nat) (opening : Opening) : Nat × Machine :=
  let time := machine.now
  let files := if opening.truncates
    then machine.files.modify number fun node => Files.filled node "" time
    else machine.files
  { machine with files }.addOpened ⟨.node number, 0, opening.reads, opening.writes, opening.appends⟩

/-- Opens once more what a stream of a process leads to. -/
def reopen (machine : Machine) (number descriptor : Nat) (opening : Opening) :
    Except Refusal Nat × Machine :=
  match machine.opened? number descriptor with
  | none => (.error .noEntry, machine)
  | some (_, opened) =>
    match opened.target with
    | .node node =>
      let (index, machine) := machine.openNode node opening
      (.ok index, machine)
    | .pipe _ =>
      let (index, machine) :=
        machine.addOpened { opened with reads := opening.reads, writes := opening.writes }
      (.ok index, machine)

/-- The mode of a new file of a process. -/
def newMode (machine : Machine) (number mode : Nat) : Nat :=
  let mask := ((machine.process? number).map (·.mask)).getD 0
  mode - (mode &&& mask)

/-- Opens the file at a path for a process. -/
def openPath (machine : Machine) (number : Nat) (path : String) (opening : Opening) :
    Except Refusal Nat × Machine :=
  let directory := machine.directory number
  let location := if opening.creates then machine.files.creation directory path
    else (machine.files.find directory path true).map (·.1)
  match location with
  | .error refusal => (.error refusal, machine)
  | .ok location =>
    match ownStream? location with
    | some descriptor => machine.reopen number descriptor opening
    | none =>
      match machine.files.number? location with
      | some node =>
        let content := (machine.files.node node).content
        let isRegular := match content with
          | .file _ | .program _ => true
          | _ => false
        if opening.writes && content = .directory then (.error .isDirectory, machine)
        else if opening.fresh && isRegular then (.error .exists, machine)
        else
          let (index, machine) := machine.openNode node opening
          (.ok index, machine)
      | none =>
        let node : Node := ⟨.file "", machine.newMode number 0o666, machine.now⟩
        let machine := { machine with files := machine.files.put location node machine.now }
        let (index, machine) :=
          machine.openNode ((machine.files.number? location).getD 0) { opening with truncates := false }
        (.ok index, machine)

end Machine

end Runbook.Host
