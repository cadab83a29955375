import Runbook.Host.Shell.Evaluation
import Runbook.Host.Utility

/-!
# Shells

A shell as a program. Its arguments set switches, and say where its commands come from: from an argument,
from a file, or from the standard input. Then come the name of the shell and its positional parameters.

`Shell.engine` ties together what carries out commands.
-/

namespace Runbook.Host.Shell

namespace Start

variable (engine : Engine)

/-! ## Arguments -/

/-- What is known of the arguments. -/
structure Options where
  /-- A command is an argument. -/
  isCommand : Bool := false
  /-- The switches that were turned off. -/
  off : List Char := []
  /-- The arguments that are left. -/
  rest : List String

/-- Lists the switches before all of them are known: those that nothing was said about count as on. -/
def listSwitches (isOn : Bool) (off : List Char) : Run Unit := do
  let letters := (State.switchNames.map (·.1)).filter (!off.contains ·)
  let state ← Run.state
  let _ ← Run.print (Builtin.switchLines { state with switches := letters } (!isOn))

/-- Turns a switch on or off. -/
def turn (isOn : Bool) (letter : Char) (found : Options) : Run Options := do
  Run.modify (·.turn letter isOn)
  return { found with off := if isOn then found.off.filter (· != letter) else letter :: found.off }

/-- Takes in the letters of an argument. -/
def letters (isOn : Bool) : List Char → Options → Run Options
  | [], found => return found
  | 'c' :: more, found => letters isOn more { found with isCommand := true }
  | 'l' :: more, found => letters isOn more found
  | 'o' :: more, found => do
    match found.rest.head? with
    | none =>
      listSwitches isOn found.off
      letters isOn more found
    | some name =>
      match State.switchNames.find? (·.2 == name) with
      | none => Run.fail ("Illegal option -o " ++ name)
      | some (letter, _) =>
        letters isOn more (← turn isOn letter { found with rest := found.rest.tail })
  | letter :: more, found => do
    if !State.switchLetters.contains letter then
      Run.fail ("Illegal option -" ++ String.singleton letter)
    letters isOn more (← turn isOn letter found)

/-- Takes in the arguments up to the first one that is no option. The number bounds that of the
arguments. -/
def options : Nat → Options → Run Options
  | 0, found => return found
  | steps + 1, found => do
    let after := { found with rest := found.rest.tail }
    match (found.rest.headD "").toList with
    | ['-'] | ['-', '-'] => return after
    | '-' :: text => options steps (← letters true text after)
    | '+' :: text => options steps (← letters false text after)
    | _ => return found

/-! ## The first state -/

/-- The name and the value of a variable that is put in at the start, with what was known of it. -/
def preset (name value : String) (table : Table) : Table :=
  table.put { (table.find? name).getD ⟨name, none, false, false, true⟩ with value := some value }

/-- The variables of a shell that is started. -/
def tableOf (job : Job) (parent : Nat) : Table :=
  let given := job.environment.filter fun pair => isName pair.1.toList
  let table := given.foldl (fun table pair =>
    table.put { (table.find? pair.1).getD ⟨pair.1, none, false, false, false⟩ with
      value := some pair.2, isExported := true }) (Table.standard Lookup.defaultPath)
  preset "PPID" (toString parent) (preset "OPTIND" "1" (preset "IFS" " \t\n" table))

/-- The path of the directory as the variables give it, if it is one from the root. -/
def givenDirectory? (files : Files) (directory : Location) (job : Job) : Option String :=
  (job.valueOf? "PWD").filter fun path =>
    path.toList.head? == some '/' &&
      (files.status directory path).toOption.any fun found => found.1 == directory

/-- The state of a shell that is started. -/
def stateOf (machine : Machine) (number : Nat) (job : Job) : State :=
  let directory := machine.directory number
  let process := machine.process? number
  let path := (givenDirectory? machine.files directory job).getD directory.toPath
  let table := tableOf job ((process.map (·.parent)).getD 0)
  let found := (table.find? "PWD").getD ⟨"PWD", none, true, false, false⟩
  { number
    root := number
    name := job.name
    arguments := []
    table := table.put { found with value := some path, isExported := true }
    switches := []
    deaf := (process.map (·.ignored)).getD []
    directory := path }

/-! ## Commands -/

/-- How much is read of the standard input at once. -/
def pieceLength : Nat := 8192

/-- Reads a part of the standard input. -/
def readPiece : Run (List Char) := do
  Run.act (Act.awaitInput 0)
  let result ← Run.act (Act.update fun number machine =>
    machine.takeSplit number 0 fun text => (text.take pieceLength, text.drop pieceLength))
  return Evaluation.readable (String.ofList (result.toOption.getD []))

/-- How often the end of the commands is told to somebody who should not leave by it. -/
def endLimit : Nat := 50

/-- What is told at the end of the commands. -/
def endWarning : String := "\nUse \"exit\" to leave shell.\n"

/-- Carries out the commands of an input up to its end. -/
def runMain (more : Run (List Char)) (input : Evaluation.Input) : Run Nat := do
  let status ← Evaluation.runInput engine more input
  if (← Run.state).has 'I' then Run.tell (String.join (List.replicate endLimit endWarning))
  return status

/-- Job control needs a terminal. -/
def refuseControl : Run Unit := do
  let state ← Run.state
  if state.has 'm' || state.has 'i' then Builtin.refuseControl

/-- Takes in the arguments, and carries out the commands that they lead to. -/
def main (arguments : List String) : Run Nat := do
  let found ← options (arguments.length + 1) { rest := arguments }
  if found.rest.isEmpty then
    if found.isCommand then Run.fail "-c requires an argument"
    Run.modify (·.turn 's' true)
  let isInput := (← Run.state).has 's'
  let setNames (rest : List String) : Run Unit := Run.modify fun state =>
    match rest with
    | name :: arguments => { state with name, arguments }
    | [] => state
  if found.isCommand then
    setNames found.rest.tail
    refuseControl
    let _ ← Evaluation.runText engine {} (found.rest.headD "")
    if isInput then runMain engine readPiece (.ofText [] false) else return 0
  else if isInput then
    Run.modify fun state => { state with arguments := found.rest }
    refuseControl
    runMain engine readPiece (.ofText [] false)
  else
    let index ← Change.openFile (found.rest.headD "") .reading
    setNames found.rest
    refuseControl
    let text ← Evaluation.readOpened index
    runMain engine (return []) (.ofText (Evaluation.readable text) true)

/-- A shell as a program. -/
def program (job : Job) : Act Nat := fun number next => .step fun machine =>
  let run := Evaluation.toTheEnd engine (main engine job.operands)
  (run (stateOf machine number job) fun result state => next (result.toOption.getD state.status), machine)

end Start

/-- The program with a name: a utility, or else a shell. -/
def programOf (engine : Engine) (name : String) (job : Job) : Act Nat :=
  match Utility.find? name with
  | some utility => utility job
  | none => Start.program engine job

/-- The signal by which a process ends that is nested too deep. -/
def overflowSignal : Nat := 11

/-- What carries out commands that are nested up to a depth. -/
def engineTo : Nat → Engine
  | 0 =>
    { evaluate := fun _ _ => Run.act (Act.finish (.signal overflowSignal))
      program := fun _ _ => Act.finish (.signal overflowSignal) }
  | depth + 1 =>
    { evaluate := fun around command => Evaluation.evaluate (engineTo depth) around command
      program := fun name job => programOf (engineTo depth) name job }

/-- How deep commands may be nested. -/
def depthLimit : Nat := 100000

/-- What carries out commands. -/
def engine : Engine := engineTo depthLimit

end Runbook.Host.Shell
