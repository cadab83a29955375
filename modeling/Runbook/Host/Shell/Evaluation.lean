import Runbook.Host.Shell.Builtin
import Runbook.Host.Shell.Streams
import Runbook.Host.Starting

/-!
# Carrying out commands

How a shell carries out commands, each kind of them by a function of its own. What carries out the
commands within a command is an `Engine`, which these functions are given; `Shell.engine` ties them
together.

* The status of a command is that of the last command that it carried out, or zero.
* Commands of a pipeline, in parentheses, in the background or in a word are carried out by copies of the
  shell.
* Between commands the shell looks at the signals that came.
-/

namespace Runbook.Host.Shell

/-- Where a command stands. -/
structure Circumstances where
  /-- The process ends with the command. -/
  isLast : Bool := false
  /-- Somebody looks at the status, so that a failure does not end the shell. -/
  isTested : Bool := false

/-- What carries out commands, and the programs that commands start. -/
structure Engine where
  evaluate : Circumstances → Command → Run Nat
  program : String → Job → Act Nat

namespace Evaluation

variable (engine : Engine)

/-! ## Texts -/

/-- A bound for the number of commands in a text, and for that of the rounds of a loop. -/
def stepLimit : Nat := Nat.pow 2 40

/-- What was read: a command, if there is one, and the reader after it. -/
abbrev Next := Option Command × Reader

/-- Reads a command; none if the text may go on and the command is not at its end. -/
def next? (reader : Reader) : Run (Option Next) := do
  let state ← Run.state
  match { reader with documents := state.documents, aliases := state.aliases }.command? with
  | .ok (found, reader) =>
    Run.modify fun state =>
      { state with documents := reader.documents, inputLine := reader.line }
    return some (found, reader)
  | .error (.mistake line text) =>
    Run.modify fun state => { state with toldLine := line }
    Run.fail text
  | .error .unfinished => return none

/-- Carries out the commands of a text. The number bounds that of the commands; the status is that of the
commands before. -/
def commands (around : Circumstances) : Nat → Nat → Reader → Run Nat
  | 0, status, _ => return status
  | steps + 1, status, reader => do
    match ← next? reader with
    | none | some (none, _) => return status
    | some (some command, reader) =>
      let found ← engine.evaluate around command
      commands around steps (if command.isNothing then status else found) reader

/-- Carries out the commands of a text. -/
def runText (around : Circumstances) (text : String) : Run Nat := do
  let line := (← Run.state).inputLine
  Run.andFinally (commands engine around stepLimit 0 (.ofText text.toList 1 true #[] []))
    (Run.modify fun state => { state with inputLine := line })

/-! ## Signals -/

/-- The signals that came, each once, in their order. -/
def pendingSignals : Run (List Nat) :=
  Run.act (Act.look fun number machine =>
    (((machine.process? number).map (·.pending)).getD []).mergeSort)

/-- The process has looked at a signal. -/
def forgetSignal (signal : Nat) : Run Unit :=
  Run.act (Act.change fun process =>
    { process with pending := process.pending.filter (· != signal) })

/-- Carries out the commands for signals. They do not change the status, unless it is given. -/
def answer (status : Nat) : List Nat → Run Unit
  | [] => return ()
  | signal :: rest => do
    forgetSignal signal
    match (← Run.state).traps.find? (·.1 == signal) with
    | none => answer status rest
    | some (_, action) =>
      match ← Run.attempt (runText engine {} action) with
      | .ok _ =>
        Run.setStatus status
        answer status rest
      | .error reason =>
        if reason.isSkip && reason != .returns true then Run.setStatus status
        Run.stop reason

/-- Carries out the commands for the signals that came. -/
def answerSignals : Run Unit := do
  if (← Run.state).traps.isEmpty then return
  let signals ← pendingSignals
  if signals.isEmpty then return
  let state ← Run.state
  let before := state.statusBefore
  let status := before.getD state.status
  Run.modify fun state => { state with statusBefore := some status }
  let result ← Run.attempt (answer engine status signals)
  let goesOn := match result with
    | .ok _ => true
    | .error reason => reason.isSkip
  if goesOn then Run.modify fun state => { state with statusBefore := before }
  Run.resume result

/-! ## The end of a shell -/

/-- The number that stands for the end of the shell among the signals. -/
def endSignal : Nat := 0

/-- Some signal, or the end of the shell, is answered by a command. -/
def hasTraps (state : State) : Bool := state.traps.any (!·.2.isEmpty)

/-- The state after a stop: its status is the one that was asked for, if one was. -/
def settled (result : Except Stop Nat) (state : State) : State :=
  let status := match result with
    | .error (.departure true) => state.statusBefore.getD state.status
    | _ => state.status
  { state with status, statusBefore := none, loops := 0, isTracing := false }

/-- Carries out the command for the end of the shell. -/
def answerEnd : Run Unit := do
  let state ← Run.state
  match state.traps.find? (·.1 == endSignal) with
  | none => return
  | some (_, action) =>
    Run.modify fun state => { state with
      traps := state.traps.filter (·.1 != endSignal), statusBefore := some state.status }
    match ← Run.attempt (runText engine {} action) with
    | .error .failure | .error (.departure false) => return
    | _ => Run.modify fun state => { state with status := state.statusBefore.getD state.status }

/-- Runs up to the end of the shell, and gives its status. -/
def toTheEnd (run : Run Nat) : Run Nat := do
  let result ← Run.attempt run
  Run.modify (settled result)
  answerEnd engine
  return (← Run.state).status

/-! ## Copies of the shell -/

/-- The signals that do not reach commands in the background. -/
def keyboardSignals : List Nat := [2, 3]

/-- The file that is always empty. -/
def emptyFile : String := "/dev/null"

/-- What a copy of the shell does at first. It forgets the commands for signals and the processes; in the
background signals from the keyboard are ignored, and the first process has no input. -/
def beginCopy (isBackground isFirst : Bool) : Run Unit := do
  Run.modify fun state => { state with
    traps := state.traps.filter (·.2.isEmpty)
    teams := []
    deaf := if isBackground then keyboardSignals ++ state.deaf else state.deaf }
  Run.act (Act.change fun process => { process with
    expected := []
    ignored := if isBackground then keyboardSignals ++ process.ignored else process.ignored })
  if isBackground && isFirst then
    Run.setStream 0 (some (← Change.openFile emptyFile .reading))

/-- Starts a copy of the shell for a team. -/
def startCopy (team : Nat) (isBackground isFirst : Bool) (child : Run Nat) : Run Unit := do
  let process ← Run.fork (toTheEnd engine do
    beginCopy isBackground isFirst
    child)
  Run.join team process
  if isBackground then Run.modify fun state => { state with lastChild := some process }

/-- A descriptor that a process does not use, beyond those that a user can name. -/
def freeDescriptor (descriptors : Descriptors) : Nat :=
  (descriptors.map (·.1)).foldl max 9 + 1

/-- Reads all that an open file gives. -/
def readOpened (index : Nat) : Run String := do
  let descriptor := freeDescriptor (← Run.descriptors)
  Run.setStream descriptor (some index)
  let result ← Run.act (Act.readAll descriptor)
  Run.setStream descriptor none
  return (result.toOption.getD "")

/-- What a command prints. -/
def substitute (command : Command) : Run String := do
  if command.isNothing then return ""
  let (reading, writing) ← Run.act (Act.update fun _ machine => machine.addPipe .empty)
  let team ← Run.update State.addTeam
  Run.hold [(0, reading), (1, writing)]
  startCopy engine team false true do
    Run.setStream 1 (some writing)
    Run.letGo
    engine.evaluate { isLast := true } command
  Run.letGo
  let text ← readOpened reading
  let status ← Run.awaitTeam team
  Run.modify fun state => { state with outputStatus := status }
  return String.ofList (text.toList.filter (· != '\x00'))

/-- Expands what is to be expanded. -/
def output : Expansion.Output := substitute engine

/-! ## Programs -/

/-- The shell that reads scripts which do not say what reads them. -/
def scriptReader : String := "/bin/sh"

/-- The program that a path starts. -/
def programAt (files : Files) (directory : Location) (job : Job) (path : String) :
    Except Refusal (String × Job) :=
  match Starting.find files directory path job with
  | .error .noFormat =>
    Starting.find files directory scriptReader
      { job with arguments := scriptReader :: path :: job.arguments.tail }
  | found => found

/-- The first program that one of some paths starts. -/
def firstProgram (files : Files) (directory : Location) (job : Job) :
    Refusal → List String → Except Refusal (String × Job)
  | refusal, [] => .error refusal
  | refusal, path :: rest =>
    match programAt files directory job path with
    | .ok found => .ok found
    | .error found =>
      firstProgram files directory job (if Lookup.isAbsent found then refusal else found) rest

/-- The status of a shell that cannot start a program. -/
def refusalStatus (refusal : Refusal) : Nat :=
  if Lookup.isAbsent refusal || refusal == .manyLinks || refusal == .longName then 127 else 126

/-- The process becomes a program. It is looked for in directories from a place on, if one is given. -/
def start (path : String) (index : Option Nat) (arguments : List String) : Run Nat := do
  let job : Job := ⟨arguments, (← Run.state).table.environment⟩
  let name := job.name
  let paths := match index with
    | none => [name]
    | some index => ((Lookup.directories path).drop index).map (Lookup.join · name)
  let directory ← Run.act Act.directory
  match firstProgram (← Run.act Act.files) directory job .noEntry paths with
  | .ok (program, job) => Run.become (Act.become (engine.program program job))
  | .error refusal =>
    Run.setStatus (refusalStatus refusal)
    Lookup.warn name refusal
    Run.stop (.departure false)

/-- Runs a program, and waits for its end; the shell becomes it if nothing else is to be done. -/
def runProgram (around : Circumstances) (path : Option String) (index : Option Nat)
    (arguments : List String) : Run Nat := do
  let state ← Run.state
  let path := path.getD state.path
  if around.isLast && !hasTraps state then start engine path index arguments
  else
    let team ← Run.update State.addTeam
    let process ← Run.fork (start engine path index arguments)
    Run.join team process
    Run.awaitTeam team

/-! ## Commands that carry out others -/

/-- Runs with another name in messages. -/
def named {α : Type} (name : Option String) (run : Run α) : Run α := do
  let before := (← Run.state).commandName
  Run.modify fun state => { state with commandName := name }
  Run.andFinally run (Run.modify fun state => { state with commandName := before })

/-- Carries out its arguments. -/
def eval (around : Circumstances) : Action := fun arguments =>
  runText engine { isTested := around.isTested } (" ".intercalate arguments)

/-- The path of a script; one without a slash is looked for. -/
def scriptPath (name : String) : Run String := do
  if name.toList.contains '/' then return name
  let directory ← Run.act Act.directory
  let files ← Run.act Act.files
  let isFile (path : String) : Bool :=
    match files.status directory path with
    | .ok (_, node) => node.isRegular
    | .error _ => false
  let paths := (Lookup.directories (← Run.state).path).map (Lookup.join · name)
  match paths.find? isFile with
  | some path => return path
  | none => Run.fail (name ++ ": not found")

/-- Text that is read line by line, and what of it was not told yet. -/
structure Input where
  reader : Reader
  untold : List Char
  /-- The line with which the text that was not told begins. -/
  line : Nat

namespace Input

/-- A text from its first line on. -/
def ofText (text : List Char) (isWhole : Bool) : Input :=
  ⟨.ofText text 1 isWhole #[] [], text, 1⟩

/-- More text, or the end of it. -/
def append (input : Input) (text : List Char) : Input :=
  { input with reader := input.reader.append text, untold := input.untold ++ text }

/-- The first lines of a text, and the rest. -/
def splitLines : Nat → List Char → List Char × List Char
  | 0, text => ([], text)
  | lines + 1, text =>
    let (line, rest) := Machine.splitLine text
    let (more, rest) := splitLines lines rest
    (line ++ more, rest)

/-- Tells the lines up to one, if that is asked for. -/
def tell (input : Input) (line : Nat) : Run Input := do
  let (lines, untold) := splitLines (line + 1 - input.line) input.untold
  if (← Run.state).has 'v' && !lines.isEmpty then Run.tell (String.ofList lines)
  return { input with untold, line := max input.line (line + 1) }

/-- The line of which something was read last. -/
def lastLine (reader : Reader) (input : Input) : Nat :=
  let taken := input.reader.rest.take (input.reader.rest.length - reader.rest.length)
  if taken.getLast? = some '\n' then reader.line - 1 else reader.line

end Input

/-- Carries out the commands of a text as it is read. Where the text may go on, `more` gives the next
part of it; nothing is its end. The number bounds that of the commands; the status is that of the commands
before. -/
def fileCommands (more : Run (List Char)) : Nat → Nat → Input → Run Nat
  | 0, status, _ => return status
  | steps + 1, status, input => do
    match ← Run.attempt (next? input.reader) with
    | .error reason =>
      let _ ← input.tell (← Run.state).toldLine
      Run.stop reason
    | .ok none => fileCommands more steps status (input.append (← more))
    | .ok (some (none, _)) =>
      let _ ← input.tell (input.line + input.untold.length)
      return status
    | .ok (some (some command, reader)) =>
      let input ← input.tell (input.lastLine reader)
      let found ← engine.evaluate {} command
      fileCommands more steps (if command.isNothing then status else found) { input with reader }

/-- Carries out the commands of a text as it is read. A return ends it. -/
def runInput (more : Run (List Char)) (input : Input) : Run Nat := do
  let line := (← Run.state).inputLine
  let result ← Run.attempt (fileCommands engine more stepLimit 0 input)
  Run.modify fun state => { state with inputLine := line }
  match result with
  | .error (.returns _) => return (← Run.state).status
  | result => Run.resume result

/-- A text without the octets that a shell does not read. -/
def readable (text : String) : List Char := text.toList.filter (· != '\x00')

/-- Carries out the commands of a file. -/
def runFile (text : String) : Run Nat :=
  runInput engine (return []) (.ofText (readable text) true)

/-- Carries out the commands of a script in this shell. -/
def dot : Action := fun arguments => do
  match (← Builtin.operands arguments).head? with
  | none => return 0
  | some name =>
    let path ← scriptPath name
    let text ← readOpened (← Change.openFile path .reading)
    named (some path) (runFile engine text)

/-- Makes the shell another program. -/
def exec : Action := fun arguments => do
  let name := arguments.headD ""
  if arguments.isEmpty then return 0
  start engine (← Run.state).path (if name.toList.contains '/' then none else some 0) arguments

/-! ## Simple commands -/

/-- The line of a command, as messages and as variables tell it. -/
def setLine (line : Nat) : Run Unit := Run.modify fun state => { state with
  toldLine := line
  line := if state.functionLine = 0 then line else line - (state.functionLine - 1) }

/-- The time that a command takes, in nanoseconds. -/
def commandTime : Nat := 1500

/-- The arguments that were found, and the words of which more may come. -/
structure Arguments where
  fields : List String
  words : List Word

/-- Expands words until there is an argument, or no word. -/
def fill : List Word → List String → Run Arguments
  | words, field :: fields => return ⟨field :: fields, words⟩
  | [], [] => return ⟨[], []⟩
  | word :: words, [] => do fill words (← Expansion.fields (output engine) word)

/-- What is known of a simple command from its first arguments. -/
structure Chosen where
  /-- The arguments before the command: a command that only says how another one is looked for, and its
  options. -/
  before : List String := []
  arguments : Arguments
  native : Option Native := none
  takesAssignments : Bool := false
  isSpecial : Bool := false
  /-- Variables that are set before the command are set only for it. -/
  isLocal : Bool := false
  path : Option String := none
  withFunctions : Bool := true

/-- Takes the first argument and its options off: it only says how another command is looked for. Gives
whether there is another command. The number bounds that of the arguments. -/
def dropOptions : Nat → Chosen → Run (Bool × Chosen)
  | 0, chosen => return (false, chosen)
  | steps + 1, chosen => do
    let first := chosen.arguments.fields.take 1
    let arguments ← fill engine chosen.arguments.words chosen.arguments.fields.tail
    let chosen := { chosen with before := chosen.before ++ first, arguments }
    match (arguments.fields.headD "").toList with
    | ['-', '-'] =>
      let after ← fill engine arguments.words arguments.fields.tail
      return (!after.fields.isEmpty,
        { chosen with before := chosen.before ++ ["--"], arguments := after })
    | '-' :: c :: letters =>
      let path := if c = 'p' then some Lookup.defaultPath else chosen.path
      let chosen := { chosen with path }
      if (c :: letters).all (· == 'p') then dropOptions steps chosen else return (false, chosen)
    | _ => return (!arguments.fields.isEmpty, chosen)

/-- Finds out what carries out a command. The number bounds that of the arguments. -/
def choose : Nat → Bool → Chosen → Run Chosen
  | 0, _, chosen => return chosen
  | steps + 1, isFirst, chosen => do
    match chosen.arguments.fields with
    | [] => return chosen
    | name :: _ =>
      match Lookup.known (← Run.state) chosen.withFunctions name with
      | some (.native native) =>
        let isSpecial := if isFirst then native.isSpecial else chosen.isSpecial
        let isLocal := !(isFirst && native.isSpecial)
        let chosen := { chosen with
          native := some native, takesAssignments := native.takesAssignments, isSpecial, isLocal }
        if native.name != "command" then return chosen
        let (hasOther, inner) ← dropOptions engine stepLimit chosen
        if hasOther then choose steps false { inner with withFunctions := false }
        else
          let arguments : Arguments :=
            ⟨inner.before.drop chosen.before.length ++ inner.arguments.fields, inner.arguments.words⟩
          return { inner with before := chosen.before, arguments }
      | _ => return { chosen with native := none, isLocal := true }

/-- Expands a word that may be an assignment. -/
def expandArgument (mayAssign : Bool) (word : Word) : Run (List String) := do
  if mayAssign && (assignment? word).isSome then
    return [← Expansion.assignmentText (output engine) word]
  Expansion.fields (output engine) word

/-- Sets variables before a command. -/
def assignAll (isLocal isExec : Bool) (assignments : List Word) : Run (List String) :=
  assignments.mapM fun word => do
    let text ← Expansion.assignmentText (output engine) word
    let (name, value) := Builtin.nameAndValue text
    if isLocal then Builtin.makeLocal true text
    else if isExec then Run.assignExported name (value.getD "")
    else Run.assign name (value.getD "")
    return text

/-- What stands before commands that are told. -/
def tracePrompt : Run String := do
  let state ← Run.state
  let text := (state.table.valueOf? "PS4").getD ""
  let result ← Run.attempt do
    match (Reader.ofText text.toList 1 true state.documents state.aliases).quoted? with
    | .error (.mistake line fault) =>
      Run.modify fun state => { state with toldLine := line }
      Run.fail fault
    | .error .unfinished => return text
    | .ok (word, reader) =>
      Run.modify fun state => { state with documents := reader.documents }
      Expansion.quotedText (output engine) word
  match result with
  | .error .failure => return text
  | result => Run.resume result

/-- Tells a command before it is carried out, where the standard error was before it. -/
def trace (before : Descriptors) (texts : List String) : Run Unit := do
  let state ← Run.state
  if !state.has 'x' || state.isTracing then return
  Run.modify fun state => { state with isTracing := true }
  let prompt ← tracePrompt engine
  Run.modify fun state => { state with isTracing := false }
  let line := prompt ++ " ".intercalate texts ++ "\n"
  match before.find? (·.1 == 2) with
  | none => Run.tell line
  | some (_, index) =>
    let _ ← Run.act (Act.update fun number machine => machine.writeOpened number index line)

/-- Looks at the children that came to their ends, if there may be some. -/
def reapEnded : Run Unit := do
  if (← Run.state).teams.any (!·.isDone) then Run.reapAll Run.childLimit

/-- The command of the shell with a name. -/
def action (around : Circumstances) (name : String) : Action :=
  match name with
  | "eval" => eval engine around
  | "." => dot engine
  | "exec" => exec engine
  | name => (Builtin.find? name).getD (Builtin.constant 127)

/-- Carries out a command of the shell itself. A mistake in one that is not special does not end the
shell. -/
def runNative (around : Circumstances) (isSpecial : Bool) (native : Native)
    (arguments : List String) : Run Nat := do
  let frames := (← Run.state).frames.length
  let result ← Run.attempt
    (named (some native.name) (action engine around native.name arguments.tail))
  match result with
  | .ok status =>
    Run.setStatus status
    reapEnded
    return (← Run.state).status
  | .error .failure =>
    if isSpecial then Run.stop .failure
    Run.leaveFramesTo frames (← Run.state).frames.length
    return (← Run.state).status
  | .error reason => Run.stop reason

/-- A function may be carried out within others up to this depth. -/
def functionLimit : Nat := 1000

/-- Carries out a function. -/
def call (around : Circumstances) (function : Function) (arguments : List String) : Run Nat := do
  let outer ← Run.state
  if functionLimit ≤ outer.depth then
    Run.fail ("Maximum function recursion depth (" ++ toString functionLimit ++ ") reached")
  Run.modify fun state => { state with
    arguments := arguments.tail, functionLine := function.line, loops := 0, depth := outer.depth + 1
    optionIndex := 1, optionOffset := none }
  let result ← Run.attempt (engine.evaluate { isTested := around.isTested } function.body)
  Run.modify fun state => { state with
    arguments := outer.arguments, functionLine := outer.functionLine, loops := outer.loops
    depth := outer.depth, optionIndex := outer.optionIndex, optionOffset := outer.optionOffset }
  match result with
  | .ok _ | .error (.returns _) => return (← Run.state).status
  | .error reason => Run.stop reason

/-- Carries out a command that is not one of the shell itself. -/
def runFound (around : Circumstances) (chosen : Chosen) (arguments : List String) : Run Nat := do
  let name := arguments.headD ""
  match ← Lookup.find chosen.withFunctions chosen.path name with
  | .native native => runNative engine around chosen.isSpecial native arguments
  | .function function => call engine around function arguments
  | .program index => runProgram engine around chosen.path index arguments
  | .nothing refusal =>
    Lookup.warn name refusal
    return 127

/-- Carries out a command of words. -/
def simple (around : Circumstances) (line : Nat) (assignments words : List Word)
    (redirections : List Redirection) : Run Nat := do
  setLine line
  Run.modify fun state => { state with outputStatus := 0 }
  Run.act (Act.spend commandTime)
  let chosen ← choose engine stepLimit true { arguments := ← fill engine words [] }
  let later ← chosen.arguments.words.mapM (expandArgument engine chosen.takesAssignments)
  let arguments := chosen.arguments.fields ++ later.flatten
  let isExec := chosen.native.any (·.name == "exec")
  let run : Run Nat := do
    let changes ← redirections.mapM (Change.ofRedirection (output engine))
    Change.around (output engine) changes isExec fun isDone before => do
      if !isDone then
        if chosen.isSpecial then Run.stop .failure
        return Run.mistakeStatus
      let isExported := isExec && 1 < arguments.length
      let assigned ← assignAll engine chosen.isLocal isExported assignments
      trace engine before (assigned ++ chosen.before ++ arguments)
      match arguments.isEmpty, chosen.native with
      | true, _ => return (← Run.state).outputStatus
      | false, some native => runNative engine around chosen.isSpecial native arguments
      | false, none => runFound engine around chosen arguments
  if chosen.isLocal then Run.withFrame run else run

/-! ## Pipelines and copies -/

/-- Remembers where the program of a command is before the command is carried out. -/
def findEarly : Command → Run Unit
  | .simple _ _ (word :: _) _ => do
    match (plainText? word).filter isName with
    | some name => let _ ← Lookup.find true none (String.ofList name)
    | none => return ()
  | _ => return ()

/-- Holds open files in place of those that are held. -/
def holdInstead (indices : List Nat) : Run Unit :=
  Run.act (Act.change fun process =>
    { process with held := indices.map (0, ·) :: process.held.tail })

/-- Starts the commands of a pipeline. The first one reads from an open file, if one is given. -/
def startPipeline (around : Circumstances) (team : Nat) (isBackground : Bool) :
    Option Nat → List Command → Run Unit
  | _, [] => return ()
  | input, command :: rest => do
    findEarly command
    let pipe ← if rest.isEmpty then pure none
      else some <$> Run.act (Act.update fun _ machine => machine.addPipe .empty)
    holdInstead (input.toList ++ pipe.toList.flatMap fun ends => [ends.1, ends.2])
    startCopy engine team isBackground input.isNone do
      if input.isSome then Run.setStream 0 input
      if pipe.isSome then Run.setStream 1 (pipe.map (·.2))
      Run.letGo
      engine.evaluate { around with isLast := true } command
    holdInstead (pipe.toList.map (·.1))
    startPipeline around team isBackground (pipe.map (·.1)) rest

/-- Carries out a pipeline. -/
def pipeline (around : Circumstances) (isBackground : Bool) (commands : List Command) : Run Nat := do
  let team ← Run.update State.addTeam
  Run.hold []
  startPipeline engine around team isBackground none commands
  Run.letGo
  if isBackground then return 0 else Run.awaitTeam team

/-- Carries out a command in a copy of the shell. -/
def copied (around : Circumstances) (isBackground : Bool) (line : Nat) (command : Command)
    (redirections : List Redirection) : Run Nat := do
  setLine line
  let changes ← redirections.mapM (Change.ofRedirection (output engine))
  let child : Run Nat := do
    changes.forM (Change.perform (output engine))
    engine.evaluate ⟨true, around.isTested && !isBackground⟩ command
  if !isBackground && around.isLast && !hasTraps (← Run.state) then child
  else
    let team ← Run.update State.addTeam
    startCopy engine team isBackground true child
    if isBackground then return 0 else Run.awaitTeam team

/-! ## Loops and choices -/

/-- What a stop within a loop does to the loop. -/
inductive Round where
  | next
  | over
  | passes (reason : Stop)

/-- What a stop does to the loop around it. -/
def Round.ofStop : Stop → Round
  | .breaks loops => if loops ≤ 1 then .over else .passes (.breaks (loops - 1))
  | .continues loops => if loops ≤ 1 then .next else .passes (.continues (loops - 1))
  | reason => .passes reason

/-- Goes on after a stop within a loop, of which the status is given. -/
def afterStop (reason : Stop) (status : Nat) (next : Run Nat) : Run Nat := do
  match Round.ofStop reason with
  | .next => next
  | .over => return status
  | .passes reason =>
    if reason.isSkip then Run.setStatus status
    Run.stop reason

/-- Carries out a body as long as a condition allows it. The number bounds that of the rounds; the status
is that of the last round. -/
def loopFrom (around : Circumstances) (until' : Bool) (condition body : Command) :
    Nat → Nat → Run Nat
  | 0, status => return status
  | steps + 1, status => do
    match ← Run.attempt (engine.evaluate { isTested := true } condition) with
    | .error reason =>
      let found := (← Run.state).status
      let status := if reason = .returns true then found else status
      afterStop reason status (loopFrom around until' condition body steps status)
    | .ok found =>
      if (found == 0) == until' then return status
      match ← Run.attempt (engine.evaluate { isTested := around.isTested } body) with
      | .ok status => loopFrom around until' condition body steps status
      | .error reason =>
        let status := (← Run.state).status
        afterStop reason status (loopFrom around until' condition body steps status)

/-- Carries out a body once for each value of a variable. The status is that of the last round. -/
def eachFrom (around : Circumstances) (name : String) (body : Command) : List String → Nat → Run Nat
  | [], status => return status
  | value :: rest, _ => do
    Run.assign name value
    match ← Run.attempt (engine.evaluate { isTested := around.isTested } body) with
    | .ok status => eachFrom around name body rest status
    | .error reason =>
      let status := (← Run.state).status
      afterStop reason status (eachFrom around name body rest status)

/-- Runs a loop. -/
def inLoop (run : Run Nat) : Run Nat := do
  Run.modify fun state => { state with loops := state.loops + 1 }
  let result ← Run.attempt run
  let goesOn := match result with
    | .ok _ => true
    | .error reason => reason.isSkip
  if goesOn then Run.modify fun state => { state with loops := state.loops - 1 }
  Run.resume result

/-- The text fits one of some patterns. -/
def fitsAny (text : String) : List Word → Run Bool
  | [] => return false
  | pattern :: rest => do
    if Glob.fits (← Expansion.pattern (output engine) pattern) text.toList then return true
    fitsAny text rest

/-- Carries out the first branch that fits a text. -/
def select (around : Circumstances) (text : String) : List Branch → Run Nat
  | [] => return 0
  | .mk patterns body :: rest => do
    if ← fitsAny engine text patterns then
      if body.isNothing then return 0 else engine.evaluate around body
    else select around text rest

/-- Gives a name to a command. -/
def define (line : Nat) (name : String) (body : Command) : Run Nat := do
  Run.modify fun state => { state with
    functions := (name, ⟨body, line⟩) :: state.functions.filter (·.1 != name)
    places := state.places.filter (·.1 != name) }
  return 0

/-! ## All commands -/

/-- A failure of the command ends the shell, if the shell is to end at failures. -/
def endsShell : Command → Bool
  | .simple .. | .pipeline .. | .subshell .. | .inBackground .. => true
  | _ => false

/-- The status with which a command is carried out, whether it becomes the status of the shell, too. -/
def carryOut (around : Circumstances) (command : Command) : Run Nat := do
  let tested : Circumstances := { isTested := around.isTested }
  let sets (run : Run Nat) : Run Nat := do
    let status ← run
    Run.setStatus status
    return status
  match command with
  | .nothing => return 0
  | .simple line assignments words redirections =>
    sets (simple engine around line assignments words redirections)
  | .redirected line command redirections => sets do
    setLine line
    let changes ← redirections.mapM (Change.ofRedirection (output engine))
    Change.around (output engine) changes false fun isDone _ =>
      if isDone then engine.evaluate tested command else return Run.mistakeStatus
  | .pipeline isBackground commands => sets (pipeline engine around isBackground commands)
  | .inBackground line command redirections =>
    sets (copied engine around true line command redirections)
  | .subshell line command redirections =>
    sets (copied engine around false line command redirections)
  | .sequence first second =>
    let _ ← engine.evaluate tested first
    sets (engine.evaluate around second)
  | .andThen first second =>
    let status ← engine.evaluate { isTested := true } first
    if status != 0 then return status
    sets (engine.evaluate around second)
  | .orElse first second =>
    let status ← engine.evaluate { isTested := true } first
    if status = 0 then return status
    sets (engine.evaluate around second)
  | .negated command =>
    let status ← engine.evaluate { isTested := true } command
    sets (return if status = 0 then 1 else 0)
  | .choice condition yes no =>
    let status ← engine.evaluate { isTested := true } condition
    let branch := if status = 0 then yes else no
    if branch.isNothing then sets (return 0) else sets (engine.evaluate around branch)
  | .loop until' condition body =>
    sets (inLoop (loopFrom engine around until' condition body stepLimit 0))
  | .each line name words body => sets do
    setLine line
    let values ← words.mapM (Expansion.fields (output engine))
    inLoop (eachFrom engine around name body values.flatten 0)
  | .select line word branches => sets do
    setLine line
    select engine around (← Expansion.text (output engine) word) branches
  | .define line name body => sets (define line name body)

/-- Carries out a command. The process ends after it if that is asked for, or if it fails where nobody
looks at the status and the shell is to end at failures. -/
def evaluate (around : Circumstances) (command : Command) : Run Nat := do
  let state ← Run.state
  let checks := endsShell command && state.has 'e' && !around.isTested
  let result ← Run.attempt do
    if command.isNothing || state.has 'n' then return 0
    answerSignals engine
    carryOut engine around command
  let ends (status : Nat) : Bool := around.isLast || (checks && status != 0)
  match result with
  | .ok status =>
    answerSignals engine
    if ends status then Run.stop (.departure false)
    return status
  | .error reason =>
    if reason.isSkip && ends (← Run.state).status then Run.stop (.departure false)
    Run.stop reason

end Evaluation

end Runbook.Host.Shell
