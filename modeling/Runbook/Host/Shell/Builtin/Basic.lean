import Runbook.Host.Shell.Lookup

/-!
# Commands of the shell: their arguments

A command of the shell itself is an `Action`. `Builtin.options` takes the options off its arguments.
-/

namespace Runbook.Host.Shell

/-- What a command of the shell does with its arguments, the name excluded. It gives a status. -/
abbrev Action := List String → Run Nat

namespace Builtin

/-- An option, and its value if it has one. -/
abbrev Given := Char × Option String

/-- How a letter is to be read: whether it is known, and whether a value follows. -/
def kind? (known : List Char) (letter : Char) : Option Bool :=
  match known with
  | [] => none
  | c :: ':' :: rest => if c = letter then some true else kind? rest letter
  | c :: rest => if c = letter then some false else kind? rest letter

/-- The options among the letters of an argument. If the last one needs a value that is not there, it is
given apart. -/
def readLetters (known : List Char) : List Char → Except String (List Given × Option Char)
  | [] => .ok ([], none)
  | letter :: rest =>
    match kind? known letter with
    | none => .error ("Illegal option -" ++ String.singleton letter)
    | some false => do
      let (given, last) ← readLetters known rest
      return ((letter, none) :: given, last)
    | some true =>
      if rest.isEmpty then .ok ([], some letter)
      else .ok ([(letter, some (String.ofList rest))], none)

/-- The options at the start of arguments, and the arguments after them. -/
def readOptions (known : List Char) : List String → Except String (List Given × List String)
  | [] => .ok ([], [])
  | argument :: rest =>
    match argument.toList with
    | ['-', '-'] => .ok ([], rest)
    | '-' :: c :: letters => do
      let (given, last) ← readLetters known (c :: letters)
      match last, rest with
      | none, rest =>
        let (more, operands) ← readOptions known rest
        return (given ++ more, operands)
      | some letter, value :: rest =>
        let (more, operands) ← readOptions known rest
        return (given ++ (letter, some value) :: more, operands)
      | some letter, [] => throw ("No arg for -" ++ String.singleton letter ++ " option")
    | _ => .ok ([], argument :: rest)

/-- Takes the options off arguments. A colon after a letter means that a value follows. -/
def options (known : String) (arguments : List String) : Run (List Given × List String) :=
  match readOptions known.toList arguments with
  | .ok found => return found
  | .error fault => Run.fail fault

/-- The operands of a command without options. -/
def operands (arguments : List String) : Run (List String) := do
  return (← options "" arguments).2

/-- A name, and the value after an equals sign. -/
def nameAndValue (text : String) : String × Option String :=
  match text.toList.dropWhile (· != '=') with
  | _ :: value => (String.ofList (text.toList.takeWhile (· != '=')), some (String.ofList value))
  | [] => (text, none)

end Builtin

end Runbook.Host.Shell
