import Runbook.CommandLine.Arguments
import Runbook.Run.Primitive

/-!
# Commands

What a command line asks for: to run a block with one of the primitives, to show how a block is split,
or to write a first configuration. `Command.parse` reads the words after the name of the program.
-/

namespace Runbook.CommandLine

open Number (Binary64)

/-- What is given for the run of a block. -/
structure Settings where
  /-- The file that holds the block. -/
  file : Option String := none
  echo : Option String := none
  onFailure : Option String := none
  keepGoing : Bool := false
  shell : Bool := false
  cwd : Option String := none
  env : List (String × String) := []
  timeout : Option Binary64 := none
  encoding : Option String := none
  iterate : Bool := false
  json : Bool := false
  dryRun : Bool := false
  noConfig : Bool := false
  captureOutput : Bool := false
  check : Bool := false
  deriving DecidableEq, Repr

/-- What a command line asks for. -/
inductive Command where
  | execute (primitive : Primitive) (settings : Settings)
  | split (file : Option String) (json : Bool)
  | init (cwd : Option String) (force : Bool)
  deriving DecidableEq, Repr

/-! ## Values of parameters -/

namespace Reading

/-- The text that is given for a parameter. -/
def text? (reading : Reading) (name : String) : Option String :=
  reading.given.findSome? fun argument =>
    match argument.2 with
    | .text text => if argument.1.name = name then some text else none
    | _ => none

/-- The number that is given for a parameter. -/
def seconds? (reading : Reading) (name : String) : Option Binary64 :=
  reading.given.findSome? fun argument =>
    match argument.2 with
    | .seconds seconds => if argument.1.name = name then some seconds else none
    | _ => none

/-- The pairs that are given for a parameter, in order. -/
def pairs (reading : Reading) (name : String) : List (String × String) :=
  reading.given.filterMap fun argument =>
    match argument.2 with
    | .pair key value => if argument.1.name = name then some (key, value) else none
    | _ => none

end Reading

/-! ## Parameters -/

/-- A parameter that is given at most once. -/
def once (name : String) (short : Option Char) (kind : Kind) : Parameter := ⟨name, short, kind, false⟩

/-- Shows the help text. -/
def helpParameter : Parameter := once "help" (some 'h') .help

/-- The file that holds the block. -/
def fileParameter : Parameter := once "file" none .path

/-- The parameters of all commands that run a block. -/
def runParameters : List Parameter := [
  helpParameter,
  once "echo" none (.label "$"),
  once "on-exception" none (.label "!"),
  once "keep-going" (some 'k') .switch,
  once "shell" none .switch,
  once "cwd" none .path,
  ⟨"env", some 'e', .pair, true⟩,
  once "timeout" none .seconds,
  once "encoding" none .text,
  once "iterate" (some 'i') .switch,
  once "json" none .switch,
  once "dry-run" (some 'd') .switch,
  once "no-config" none .switch]

/-- The parameters of the command that runs a block with a primitive. -/
def runSignature (primitive : Primitive) : Signature :=
  let more := if primitive = .run then
    [once "capture-output" none .switch, once "check" none .switch] else []
  ⟨runParameters ++ more, some fileParameter⟩

/-- The parameters of the command that shows how a block is split. -/
def splitSignature : Signature := ⟨[helpParameter, once "json" none .switch], some fileParameter⟩

/-- The parameters of the command that writes a first configuration. -/
def initSignature : Signature :=
  ⟨[helpParameter, once "cwd" (some 'c') .path, once "force" (some 'f') .switch], none⟩

/-! ## Names -/

/-- The name of a command. -/
inductive CommandName where
  | execute (primitive : Primitive)
  | split
  | init
  | help
  deriving DecidableEq, Repr

/-- The command with this name. -/
def CommandName.ofWord? : String → Option CommandName
  | "call" | "c" => some (.execute .call)
  | "check-call" => some (.execute .checkCall)
  | "check-output" | "o" => some (.execute .checkOutput)
  | "run" | "r" => some (.execute .run)
  | "split" => some .split
  | "init" => some .init
  | "help" => some .help
  | _ => none

/-! ## Parsing -/

/-- What is given for the run of a block. -/
def Settings.ofReading (reading : Reading) : Settings where
  file := reading.text? "file"
  echo := reading.text? "echo"
  onFailure := reading.text? "on-exception"
  keepGoing := reading.has "keep-going"
  shell := reading.has "shell"
  cwd := reading.text? "cwd"
  env := reading.pairs "env"
  timeout := reading.seconds? "timeout"
  encoding := reading.text? "encoding"
  iterate := reading.has "iterate"
  json := reading.has "json"
  dryRun := reading.has "dry-run"
  noConfig := reading.has "no-config"
  captureOutput := reading.has "capture-output"
  check := reading.has "check"

namespace Command

/-- The words after the name of a command that runs a block. Failures cannot both be reported and be
passed over in silence. -/
def parseExecute (primitive : Primitive) (words : List String) : Except Usage Command := do
  let reading ← (runSignature primitive).read .start words
  if reading.has "keep-going" ∧ reading.has "on-exception" then throw .conflict
  return .execute primitive (Settings.ofReading reading)

/-- The words after the name of the command that asks for help: a command, if any. -/
def parseHelp : List String → Usage
  | [] => .help
  | [word] => if (CommandName.ofWord? word).isSome then .help else .unknownCommand
  | _ => .unknownCommand

/-- The words after the name of a command. -/
def parseNamed (name : CommandName) (words : List String) : Except Usage Command :=
  match name with
  | .execute primitive => parseExecute primitive words
  | .split => do
    let reading ← splitSignature.read .start words
    return .split (reading.text? "file") (reading.has "json")
  | .init => do
    let reading ← initSignature.read .start words
    return .init (reading.text? "cwd") (reading.has "force")
  | .help => .error (parseHelp words)

/-- What comes of an argument before any command: the help text, the version or a complaint. -/
def withoutCommand : Form → Usage
  | .marker => .missingCommand
  | .operand => .unknownCommand
  | .long name value =>
    if name = "help" ∨ name = "version" then
      if value.isSome then .needlessValue else if name = "help" then .help else .version
    else .unknownArgument
  | .short names =>
    match names.head? with
    | some 'h' => .help
    | some 'V' => .version
    | _ => .unknownArgument

/-- The words after the name of the program. -/
def parse : List String → Except Usage Command
  | [] => .error .missingCommand
  | word :: rest =>
    match CommandName.ofWord? word, Form.ofWord word, rest with
    | some name, _, _ => parseNamed name rest
    | none, .marker, next :: _ =>
      .error (if (CommandName.ofWord? next).isSome then .unknownArgument else .unknownCommand)
    | none, form, _ => .error (withoutCommand form)

end Command

end Runbook.CommandLine
