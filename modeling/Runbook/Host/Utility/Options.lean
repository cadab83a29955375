import Runbook.Host.Program
import Runbook.Host.Utility.Quotation

/-!
# Options of utilities

The options among the arguments of a utility: letters after a hyphen, and words after two. They may
stand before, after and between the operands, up to two hyphens that stand alone; some utilities take
them only before the operands, and all do if a variable asks for it. A word may be cut short as long as
it is clear which one is meant.
-/

namespace Runbook.Host.Utility

/-- What comes with an option. -/
inductive Value where
  | none
  | required
  /-- Only after an equals sign. -/
  | optional
  deriving DecidableEq, Repr

/-- The options that a utility knows. -/
structure Known where
  /-- Letters. -/
  letters : List (Char × Value)
  /-- Words, each with the name of the option that it stands for. -/
  words : List (String × Value × String)
  /-- Options come only before the operands. -/
  inOrder : Bool := false

namespace Known

/-- Letters without values, letters with them, words without values and words with them. -/
def of (letters withValue : String) (words : List (String × String))
    (valued : List (String × Value × String)) : Known where
  letters := letters.toList.map (·, .none) ++ withValue.toList.map (·, .required)
  words := words.map (fun word => (word.1, .none, word.2)) ++ valued ++
    [("help", .none, "help"), ("version", .none, "version")]

end Known

/-- An option that was given, with its value. -/
structure Given where
  name : String
  value : Option String
  deriving Repr

/-- What stands among the arguments. -/
structure Arguments where
  options : List Given
  operands : List String

namespace Arguments

/-- An option was given under one of some names. -/
def has (arguments : Arguments) (names : List String) : Bool :=
  arguments.options.any fun given => names.contains given.name

/-- The last of some options that was given. -/
def last? (arguments : Arguments) (names : List String) : Option Given :=
  arguments.options.reverse.find? fun given => names.contains given.name

/-- The value of the last of some options. -/
def value? (arguments : Arguments) (names : List String) : Option String :=
  (arguments.last? names).bind (·.value)

/-- One more option before the others. -/
def add (name : String) (value : Option String) (arguments : Arguments) : Arguments :=
  { arguments with options := ⟨name, value⟩ :: arguments.options }

end Arguments

/-- A text between simple quotation marks. -/
def quoted (text : String) : String := "'" ++ text ++ "'"

/-- The word that is meant by one that may be cut short; `given` is all that stands after the hyphens. -/
def findWord (known : Known) (word given : String) : Except String (String × Value × String) :=
  match known.words.find? (·.1 == word) with
  | some found => .ok found
  | none =>
    let fitting := known.words.filter fun entry => word.toList.isPrefixOf entry.1.toList
    match fitting with
    | [] => .error ("unrecognized option " ++ quoted ("--" ++ given))
    | found :: others =>
      if others.all fun other => other.2 = found.2 then .ok found
      else .error ("option " ++ quoted ("--" ++ given) ++ " is ambiguous; possibilities:" ++
        String.join (fitting.map fun entry => " " ++ quoted ("--" ++ entry.1)))

/-- The options after one hyphen, and what is left of the arguments after them. -/
def readLetters (known : Known) : List Char → List String → Except String (List Given × List String)
  | [], rest => .ok ([], rest)
  | c :: letters, rest =>
    match known.letters.find? (·.1 == c) with
    | none => .error ("invalid option -- " ++ quoted (String.singleton c))
    | some (_, .required) =>
      match letters, rest with
      | [], [] => .error ("option requires an argument -- " ++ quoted (String.singleton c))
      | [], value :: rest => .ok ([⟨String.singleton c, some value⟩], rest)
      | _, rest => .ok ([⟨String.singleton c, some (String.ofList letters)⟩], rest)
    | some _ => do
      let (more, rest) ← readLetters known letters rest
      return (⟨String.singleton c, none⟩ :: more, rest)

/-- The option that a word after two hyphens is, and what is left of the arguments after it. -/
def readWord (known : Known) (text : List Char) (rest : List String) :
    Except String (Given × List String) := do
  let word := text.takeWhile (· != '=')
  let value := (text.dropWhile (· != '=')).tail?.map String.ofList
  let (name, kind, key) ← findWord known (String.ofList word) (String.ofList text)
  match kind, value, rest with
  | .none, some _, _ => throw ("option " ++ quoted ("--" ++ name) ++ " doesn't allow an argument")
  | .required, none, [] => throw ("option " ++ quoted ("--" ++ name) ++ " requires an argument")
  | .required, none, value :: rest => return (⟨key, some value⟩, rest)
  | _, value, rest => return (⟨key, value⟩, rest)

/-- The options and the operands among arguments, or what is wrong with the first bad option. The
first argument bounds the number of steps. -/
def readArguments (known : Known) : Nat → List String → Except String Arguments
  | 0, _ => .ok ⟨[], []⟩
  | _ + 1, [] => .ok ⟨[], []⟩
  | steps + 1, argument :: rest =>
    match argument.toList with
    | ['-', '-'] => .ok ⟨[], rest⟩
    | '-' :: '-' :: text => do
      let (given, rest) ← readWord known text rest
      let more ← readArguments known steps rest
      return more.add given.name given.value
    | '-' :: c :: letters => do
      let (given, rest) ← readLetters known (c :: letters) rest
      let more ← readArguments known steps rest
      return { more with options := given ++ more.options }
    | _ => do
      if known.inOrder then return ⟨[], argument :: rest⟩
      let more ← readArguments known steps rest
      return { more with operands := argument :: more.operands }

/-! ## What utilities tell -/

/-- Writes to standard error. -/
def tell (text : String) : Act Unit := do
  let _ ← Act.tryWrite 2 text

/-- Writes a line to standard error, after the name of the program. -/
def warn (job : Job) (text : String) : Act Unit := tell (job.name ++ ": " ++ text ++ "\n")

/-- Tells where to find help. -/
def referToHelp (job : Job) (status : Nat) : Act Nat := do
  tell ("Try '" ++ job.name ++ " --help' for more information.\n")
  return status

/-- Complains about the arguments. -/
def misuse (job : Job) (text : String) (status : Nat) : Act Nat := do
  warn job text
  referToHelp job status

/-- What is wrong with what is asked for, the status, and whether help is pointed to. -/
structure Fault where
  text : String
  status : Nat := 1
  refers : Bool := false

/-- Tells what is wrong. -/
def complain (job : Job) (fault : Fault) : Act Nat := do
  warn job fault.text
  if fault.refers then referToHelp job fault.status else return fault.status

/-- Writes to standard output at the end of a program; `status` is the one if that can be done, and
`failure` the one if it cannot. -/
def printWith (job : Job) (text : String) (status failure : Nat) : Act Nat := do
  if text.isEmpty then return status
  match ← Act.tryWrite 1 text with
  | .ok () => return status
  | .error refusal =>
    warn job ("write error: " ++ refusal.text)
    return failure

/-- Writes to standard output at the end of a program. -/
def print (job : Job) (text : String) (status : Nat) : Act Nat := printWith job text status 1

/-- The word that an argument stands for, or what is wrong with it. Words with the same meaning stand
together; the first one of them is given. -/
def chooseWord (wide : Bool) (option : String) (words : List (List String)) (argument : String) :
    Except String String :=
  let meant (fits : String → Bool) : List String :=
    (words.filter fun group => group.any fits).map (·.headD "")
  match meant (· == argument), meant fun word => argument.toList.isPrefixOf word.toList with
  | exact :: _, _ => .ok exact
  | [], [word] => .ok word
  | [], fitting =>
    .error ((if fitting.isEmpty then "invalid" else "ambiguous") ++ " argument " ++
      Quotation.marked wide argument ++ " for " ++ Quotation.marked wide option ++
      "\nValid arguments are:" ++
      String.join (words.map fun group =>
        "\n  - " ++ ", ".intercalate (group.map (Quotation.marked wide))))

/-- The meaning of a word in a table. -/
def meaning {α : Type} (wide : Bool) (option : String) (table : List (List String × α))
    (word : String) : Except Fault (Option α) :=
  match chooseWord wide option (table.map (·.1)) word with
  | .error text => .error ⟨text, 1, true⟩
  | .ok word => .ok ((table.find? fun entry => entry.1.head? == some word).map (·.2))

/-- A table of words that each have a meaning of their own. -/
def single {α : Type} (table : List (String × α)) : List (List String × α) :=
  table.map fun entry => ([entry.1], entry.2)

/-- A program that is given its options and its operands; a bad option is an error with a status. -/
def withOptions (known : Known) (status : Nat) (program : Job → Arguments → Act Nat) (job : Job) :
    Act Nat :=
  let isStrict := (job.valueOf? "POSIXLY_CORRECT").isSome
  let known := { known with inOrder := known.inOrder || isStrict }
  match readArguments known (job.arguments.length + 1) job.operands with
  | .error fault => misuse job fault status
  | .ok arguments =>
    match arguments.options.find? fun given => given.name == "help" || given.name == "version" with
    | some given =>
      if given.name = "help" then print job ("Usage: " ++ job.name ++ " [OPTION]...\n") 0
      else print job (job.name ++ "\n") 0
    | none => program job arguments

end Runbook.Host.Utility
