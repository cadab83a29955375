import Runbook.Host.Site
import Runbook.Number.Instant

/-!
# Launches on a machine

* `Site.prepare` finds out what a request starts, or why nothing can be started.
* `Site.launch` starts it and waits for its end, and until nothing more can come of the streams that are
  captured. It waits for ever if that does not come about. What a child leaves behind goes on for as long
  as other children do.
* A child that may only run for some time is looked after every ten milliseconds, and stopped at the
  first look at which its time is up. When that is going to be is found out after the child was started;
  if the clock cannot tell it, the runner breaks off, and the child runs on.
* A child without an input of its own reads that of the runner, and what it leaves is for the next one.
-/

namespace Runbook.Host

open Number (Duration Instant)

/-- Why a runner does not come back from a launch. -/
inductive Departure.Reason where
  /-- It broke off, as the clock cannot tell the time at which the child is to be stopped. -/
  | brokeOff
  /-- It waits, and nothing can happen any more. -/
  | waits
  /-- It waits, and all steps that were looked at were made. -/
  | unfinished
  deriving DecidableEq, Repr

/-- What there is in place of a reply if the runner does not come back from a launch. -/
structure Departure where
  reason : Departure.Reason
  /-- What reached the streams of the runner before. -/
  spilled : Streams
  deriving DecidableEq

namespace Site

/-! ## What a request starts -/

/-- The shell that reads lines. -/
def shellProgram : String := "/bin/sh"

/-- The program of a request and its arguments, the name first. -/
def command (request : Request) : Except IoError (String × List String) :=
  match request.invocation with
  | .argv [] => .error ⟨.invalidInput, "No command specified"⟩
  | .argv (first :: rest) => .ok (request.options.executable.getD first, first :: rest)
  | .shell line =>
    let program := request.options.executable.getD shellProgram
    .ok (program, [program, "-c", line])

/-- The variables of a child. -/
def childEnvironment (inherited : Variables) (options : Options) : Variables :=
  (if options.envClear then Variables.empty else inherited).overlay
    (options.env.map fun pair => (octets pair.1, octets pair.2))

/-- A variable as a child sees it, whose name ends at the first equals sign. -/
def asSeen (pair : String × String) : String × String :=
  let text := (pair.1 ++ "=" ++ pair.2).toList
  (String.ofList (text.takeWhile (· != '=')), String.ofList (text.dropWhile (· != '=')).tail)

/-- A text that is given to a child holds the character zero. -/
def hasZero (options : Options) (program : String) (arguments : List String) : Bool :=
  (program :: arguments ++ options.cwd.toList ++ options.env.flatMap fun pair => [pair.1, pair.2]).any
    (·.toList.contains '\x00')

/-- The directory of a child. -/
def childDirectory (site : Site) (options : Options) : Except Refusal Location :=
  match options.cwd with
  | none => .ok site.directory
  | some path => do
    let (location, node) ← site.files.status site.directory (octets path)
    if node.isDirectory then return location else throw .notDirectory

/-- What a child is: a program, what it is given, and a directory. -/
structure Started where
  program : String
  job : Job
  directory : Location

/-- The directories in which programs are looked for if no variable names them. -/
def defaultPath : String := "/bin:/usr/bin"

/-- The first of some paths that can be started. A path that leads to nothing, or to something that may
not be started, is passed over; `refusal` and `isDenied` tell of the paths before. -/
def firstOf {α : Type} (attempt : String → Except Refusal α) (isDenied : Bool) (refusal : Refusal) :
    List String → Except Refusal α
  | [] => .error (if isDenied then .denied else refusal)
  | path :: rest =>
    match attempt path with
    | .ok found => .ok found
    | .error .denied => firstOf attempt true .denied rest
    | .error .noEntry => firstOf attempt isDenied .noEntry rest
    | .error .notDirectory => firstOf attempt isDenied .notDirectory rest
    | .error refusal => .error refusal

/-- The program that is started under a name, and what it is given. A name without a slash is looked for
in the directories of a list; `readsScripts` says that a shell reads what is no program. -/
def findProgram (files : Files) (directory : Location) (path : String) (readsScripts : Bool)
    (name : String) (job : Job) : Except Refusal (String × Job) :=
  let attempt (path : String) : Except Refusal (String × Job) :=
    match Starting.find files directory path job with
    | .error .noFormat =>
      if readsScripts then
        Starting.find files directory shellProgram
          { job with arguments := shellProgram :: path :: job.operands }
      else .error .noFormat
    | found => found
  if name.isEmpty then .error .noEntry
  else if name.toList.contains '/' then attempt name
  else if Files.nameLimit < name.length then .error .longName
  else
    firstOf attempt false .noEntry ((Shell.Lookup.directories path).map fun directory =>
      Shell.Lookup.join directory name)

/-- Something is said of the directories in which programs are looked for. -/
def changesPath (options : Options) : Bool :=
  options.envClear || options.env.any fun pair => pair.1 == "PATH"

/-- What a request starts. Only where something is said of the directories of programs, the variables of
the child say where they are, and a shell reads what is no program. -/
def prepare (site : Site) (request : Request) : Except IoError Started := do
  let options := request.options
  let (program, arguments) ← command request
  if hasZero options program arguments then throw .zeroInText
  let environment := childEnvironment site.environment options
  let job : Job := { arguments := arguments.map octets, environment := environment.pairs.map asSeen }
  let isOwn := changesPath options
  let path := if isOwn then job.valueOf? "PATH" else site.environment.get? "PATH"
  let found : Except Refusal Started := do
    let directory ← site.childDirectory options
    let readsScripts := isOwn && !program.toList.contains '/'
    let (program, job) ← findProgram site.files directory (path.getD defaultPath) readsScripts
      (octets program) job
    return { program, job, directory }
  found.mapError Refusal.toIoError

/-! ## Time -/

/-- The time between two looks after a child, in nanoseconds. -/
def pollInterval : Nat := 10000000

/-- The first look after a time, in nanoseconds after the start. -/
def lookAfter (time : Nat) : Nat := (time + pollInterval - 1) / pollInterval * pollInterval

/-- The time at which a child is to be stopped, if the clock can tell it. -/
def deadline? (clock : Nat) (limit : Duration) : Option Instant :=
  (Instant.ofNanoseconds? clock).bind (·.after? limit)

/-- A child was stopped because its time was up. -/
def timeIsUp (limit : Duration) : IoError := ⟨.timedOut, "timed out after " ++ limit.toText⟩

/-! ## Children -/

/-- A child that was started. -/
structure Child where
  number : Nat
  /-- The pipes of the streams that are captured. -/
  out : Option Nat
  err : Option Nat

namespace Child

/-- The pipes of a child. -/
def pipes (child : Child) : List Nat := child.out.toList ++ child.err.toList

/-- How the child came to its end. -/
def ending? (child : Child) (machine : Machine) : Option Ending :=
  (machine.process? child.number).bind (·.ending)

/-- The child came to its end. -/
def hasEnded (child : Child) (machine : Machine) : Bool := (child.ending? machine).isSome

/-- Nothing more can come of the streams that are captured. -/
def isClosed (child : Child) (machine : Machine) : Bool :=
  child.pipes.all fun pipe => !machine.hasWriter pipe

/-- What came of a stream that is captured. -/
def captured (machine : Machine) (pipe : Nat) : Bytes :=
  Octets.bytes (String.ofList (machine.pipe pipe).contents)

/-- The exit status, or the negated number of a signal. -/
def code : Ending → Int
  | .exit status => (status % 256 : Nat)
  | .signal number => -(number : Int)

/-- What came of the child, if it came to its end and nothing more can come of the streams that are
captured. -/
def output? (child : Child) (machine : Machine) : Option Output :=
  match child.ending? machine with
  | some ending =>
    if child.isClosed machine then
      some ⟨code ending, child.out.map (captured machine), child.err.map (captured machine)⟩
    else none
  | none => none

end Child

/-- A pipe from which the runner reads, if that is asked for: its number, and the end to write into. -/
def capture (machine : Machine) (isWanted : Bool) : Option (Nat × Nat) × Machine :=
  if isWanted then
    let pipe := machine.pipes.size
    let ((reading, writing), machine) := machine.addPipe .empty
    let machine := machine.modifyProcess runner fun process =>
      { process with held := [(0, reading)] :: process.held }
    (some (pipe, writing), machine)
  else (none, machine)

/-- A pipe that holds what a child is to read, if that is given: the end to read from. -/
def provide (machine : Machine) (text : Option String) : Option Nat × Machine :=
  match text with
  | none => (none, machine)
  | some text =>
    let ((reading, _), machine) := machine.addPipe (.ofOctets (octets text))
    (some reading, machine)

/-- Starts a child. -/
def startChild (site : Site) (request : Request) (started : Started) : Child × Site :=
  let (input, machine) := provide site.machine request.options.stdin
  let (out, machine) := capture machine request.capture.stdout
  let (err, machine) := capture machine request.capture.stderr
  let number := machine.next
  let streams := [(0, input), (1, out.map (·.2)), (2, err.map (·.2))]
  let machine := (machine.fork runner).modifyProcess number fun process =>
    { process with
      descriptors := streams.foldl (fun descriptors (stream, opened) =>
        match opened with
        | some opened => Machine.install descriptors stream opened
        | none => descriptors) process.descriptors
      held := []
      directory := started.directory
      time := machine.clock }
  let program : Program := Act.become (Shell.engine.program started.program started.job) number
    fun status => .finish (.exit status)
  (⟨number, out.map (·.1), err.map (·.1)⟩,
    { site with world := ⟨machine, site.world.programs ++ [(number, program)]⟩ })

/-- A bound for the number of steps of all processes. -/
def stepLimit : Nat := Nat.pow 2 60

/-- Goes on until a property holds or until a time. -/
def runUntil (site : Site) (until' : Machine → Bool) (limit : Option Nat) : Halt × Site :=
  let (halt, world) := site.world.run until' limit stepLimit
  (halt, { site with world })

/-- It is at least some time. -/
def atLeast (site : Site) (time : Nat) : Site := { site with world := site.world.atLeast time }

/-- Nothing is left of a child that was waited for. -/
def forget (site : Site) (child : Child) : Site := site.withMachine (site.machine.forget child.number)

/-- The runner holds none of the pipes any more. -/
def letGo (site : Site) : Site :=
  site.withMachine (site.machine.modifyProcess runner ({ · with held := [] }))

/-- What waiting for a child comes to: an output or an error, unless the runner does not come back. -/
abbrev Awaited := Except Departure.Reason (Except IoError Output)

/-- Waits for the end of a child and for all that is captured. -/
def waitFor (site : Site) (child : Child) : Awaited × Site :=
  match site.runUntil (fun machine => (child.output? machine).isSome) none with
  | (.spent, site) => (.error .unfinished, site)
  | (_, site) =>
    match child.output? site.machine with
    | some output => (.ok (.ok output), site.letGo.forget child)
    | none => (.error .waits, site)

/-- Lets time go by up to a look after a child that came to its end, and waits for all that is captured. -/
def collect (site : Site) (child : Child) (look : Nat) : Awaited × Site :=
  match site.runUntil (fun _ => false) (some look) with
  | (.spent, site) => (.error .unfinished, site)
  | (_, site) => (site.atLeast look).waitFor child

/-- Stops a child whose time is up. -/
def stop (site : Site) (child : Child) (limit : Duration) : Awaited × Site :=
  (.ok (.error (timeIsUp limit)),
    (site.withMachine (site.machine.signal child.number 9)).forget child)

/-- Looks after a child every ten milliseconds, and stops it when a limit is over. -/
def watch (site : Site) (child : Child) (limit : Duration) : Awaited × Site :=
  let start := site.machine.clock
  let last := start + lookAfter limit.nanoseconds
  match site.runUntil child.hasEnded (some last) with
  | (.done, site) => site.collect child (start + lookAfter (site.machine.clock - start))
  | (.spent, site) => (.error .unfinished, site)
  | (_, site) => (site.atLeast last).stop child limit

/-- Waits for the end of a child that may only run for some time, if its deadline can be told. -/
def waitWithin (site : Site) (child : Child) (limit : Duration) : Option Instant → Awaited × Site
  | none => (.error .brokeOff, site)
  | some _ => site.watch child limit

/-- Waits for the end of a child that may run as long as it is told. -/
def await (site : Site) (child : Child) : Option Duration → Awaited × Site
  | none => site.waitFor child
  | some limit => site.waitWithin child limit (deadline? site.machine.clock limit)

/-- Tells what waiting for a child came to, with what reached the streams of the runner. -/
def reply (awaited : Awaited) (site : Site) : Except Departure Launched × Site :=
  let (spilled, site) := site.spill
  match awaited with
  | .ok outcome => (.ok ⟨outcome, spilled⟩, site)
  | .error reason => (.error ⟨reason, spilled⟩, site)

/-- Starts the child of a request and waits for its end. -/
def launch : Venture Departure Site := fun request site =>
  match site.prepare request with
  | .error error => (.ok ⟨.error error, .silent⟩, site)
  | .ok started =>
    let (child, site) := site.startChild request started
    let (awaited, site) := site.await child request.options.timeout
    reply awaited site

/-- The children that the runner started and has not waited for to their end. -/
def abandoned (site : Site) : List Nat :=
  (site.machine.processes.filter (·.parent == runner)).map (·.number)

end Site

end Runbook.Host
