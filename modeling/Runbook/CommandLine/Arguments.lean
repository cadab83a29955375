import Runbook.Number.Binary64

/-!
# Arguments

The parameters of a command and the arguments that are given for them, word by word.

* A word is a long name, a group of short names, the marker after which every word is an operand, or
  an operand. `Form.ofWord` tells them apart.
* `Reading` is what was understood so far. An option that still waits for its value, and an operand,
  are settled when the next argument is understood, or at the end: only then is a value looked at, and
  only then is a repetition noticed.
* An unknown argument is an error at once, whatever waits to be settled.
-/

namespace Runbook.CommandLine

open Number (Binary64)

/-- Why a command line is not carried out. -/
inductive Usage where
  /-- The help text was asked for. -/
  | help
  /-- The version was asked for. -/
  | version
  /-- There is no command. -/
  | missingCommand
  | unknownCommand
  | unknownArgument
  /-- Two arguments exclude each other, or one is given twice. -/
  | conflict
  /-- A value is missing, or empty where it must not be. -/
  | missingValue
  /-- A switch is given a value. -/
  | needlessValue
  /-- A value cannot be read. -/
  | badValue
  deriving DecidableEq, Repr

/-- What a parameter takes. -/
inductive Kind where
  /-- No value. -/
  | switch
  /-- No value; shows the help text. -/
  | help
  /-- A text attached after an equals sign, or else the given one. -/
  | label (missing : String)
  | text
  /-- A text that is not empty. -/
  | path
  /-- A name and a value with an equals sign between them. -/
  | pair
  /-- A number. -/
  | seconds
  deriving DecidableEq, Repr

/-- The value of an argument. -/
inductive Value where
  | present
  | text (text : String)
  | pair (name value : String)
  | seconds (seconds : Binary64)
  deriving DecidableEq, Repr

/-- A parameter of a command. -/
structure Parameter where
  name : String
  short : Option Char
  kind : Kind
  /-- It may be given more than once. -/
  repeats : Bool
  deriving DecidableEq, Repr

/-! ## Values -/

/-- A name and a value. The name ends at the first equals sign and is not empty. -/
def pair? (text : String) : Option (String × String) :=
  let name := text.toList.takeWhile (· != '=')
  match text.toList.dropWhile (· != '=') with
  | _ :: value => if name.isEmpty then none else some (String.ofList name, String.ofList value)
  | [] => none

/-- Reads the value of a parameter. -/
def Kind.read (kind : Kind) (value : String) : Except Usage Value :=
  match kind with
  | switch | help => .ok .present
  | label _ | text => .ok (.text value)
  | path => if value.isEmpty then .error .missingValue else .ok (.text value)
  | pair =>
    match pair? value with
    | some (name, value) => .ok (.pair name value)
    | none => .error .badValue
  | seconds =>
    match Binary64.parse? value with
    | some number => .ok (.seconds number)
    | none => .error .badValue

/-! ## Words -/

/-- The form of a word. -/
inductive Form where
  /-- From here on every word is an operand. -/
  | marker
  | long (name : String) (value : Option String)
  | short (names : List Char)
  | operand
  deriving DecidableEq, Repr

/-- A long name, with what stands after an equals sign. -/
def Form.ofLong (text : List Char) : Form :=
  let name := String.ofList (text.takeWhile (· != '='))
  match text.dropWhile (· != '=') with
  | _ :: value => .long name (some (String.ofList value))
  | [] => .long name none

/-- The form of a word. A single hyphen is an operand. -/
def Form.ofWord (word : String) : Form :=
  match word.toList with
  | ['-', '-'] => .marker
  | '-' :: '-' :: text => .ofLong text
  | '-' :: c :: names => .short (c :: names)
  | _ => .operand

/-! ## What was understood -/

/-- The arguments that were understood. -/
structure Reading where
  /-- The settled arguments, in order. -/
  given : List (Parameter × Value)
  /-- An argument that is not settled, with its value unless it still waits for it. -/
  waiting : Option (Parameter × Option String)

namespace Reading

/-- Before the first word. -/
def start : Reading := ⟨[], none⟩

/-- The parameter was given. -/
def has (reading : Reading) (name : String) : Bool := reading.given.any (·.1.name == name)

/-- Adds an argument. -/
def add (reading : Reading) (parameter : Parameter) (value : String) : Except Usage Reading := do
  if parameter.kind = .help then throw .help
  if reading.has parameter.name ∧ ¬ parameter.repeats then throw .conflict
  return ⟨reading.given ++ [(parameter, ← parameter.kind.read value)], none⟩

/-- Adds the argument that waits. -/
def settle (reading : Reading) : Except Usage Reading :=
  match reading.waiting with
  | none => .ok reading
  | some (_, none) => .error .missingValue
  | some (parameter, some value) => reading.add parameter value

/-- Adds an argument after the one that waits. -/
def take (reading : Reading) (parameter : Parameter) (value : String) : Except Usage Reading := do
  (← reading.settle).add parameter value

/-- Lets an argument wait, after the one that waits is settled. -/
def await (reading : Reading) (parameter : Parameter) (value : Option String) :
    Except Usage Reading := do
  return { ← reading.settle with waiting := some (parameter, value) }

end Reading

/-! ## Commands -/

/-- The parameters of a command: its options, and its only operand if it has one. -/
structure Signature where
  options : List Parameter
  operand : Option Parameter

namespace Signature

/-- Understands a long name. -/
def long (signature : Signature) (reading : Reading) (name : String) (value : Option String) :
    Except Usage Reading :=
  match signature.options.find? (·.name == name) with
  | none => .error .unknownArgument
  | some parameter =>
    match parameter.kind, value with
    | .switch, some _ | .help, some _ => .error .needlessValue
    | .switch, none | .help, none => reading.take parameter ""
    | .label missing, value => reading.take parameter (value.getD missing)
    | _, some value => reading.take parameter value
    | _, none => reading.await parameter none

/-- Understands a group of short names. What follows a name that takes a value is the value. -/
def short (signature : Signature) (reading : Reading) : List Char → Except Usage Reading
  | [] => .ok reading
  | c :: rest =>
    match signature.options.find? (·.short == some c) with
    | none => .error .unknownArgument
    | some parameter =>
      match parameter.kind, rest with
      | .switch, rest | .help, rest => do signature.short (← reading.take parameter "") rest
      | _, '=' :: value => reading.take parameter (String.ofList value)
      | .label missing, rest => do signature.short (← reading.take parameter missing) rest
      | _, [] => reading.await parameter none
      | _, value => reading.take parameter (String.ofList value)

/-- Understands an operand; there is at most one. -/
def place (signature : Signature) (reading : Reading) (word : String) : Except Usage Reading :=
  match signature.operand with
  | none => .error .unknownArgument
  | some parameter =>
    let seen := reading.has parameter.name ||
      reading.waiting.any fun waiting => waiting.1.name == parameter.name
    if seen then .error .unknownArgument else reading.await parameter (some word)

/-- Understands a word that is no marker. A word that is no argument by its form is the value of the
option that waits for one. -/
def word (signature : Signature) (reading : Reading) (word : String) : Except Usage Reading :=
  match Form.ofWord word with
  | .long name value => signature.long reading name value
  | .short names => signature.short reading names
  | .marker | .operand =>
    match reading.waiting with
    | some (parameter, none) => .ok { reading with waiting := some (parameter, some word) }
    | _ => signature.place reading word

/-- Understands all words. -/
def read (signature : Signature) (reading : Reading) : List String → Except Usage Reading
  | [] => reading.settle
  | word :: rest =>
    if Form.ofWord word = .marker then do
      (← rest.foldlM signature.place reading).settle
    else do
      signature.read (← signature.word reading word) rest

end Signature

end Runbook.CommandLine
