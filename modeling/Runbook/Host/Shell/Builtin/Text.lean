import Runbook.Host.Shell.Builtin.Basic
import Runbook.Host.Shell.Test
import Runbook.Host.Utility.Escape
import Runbook.Host.Utility.Format

/-!
# Commands of the shell: texts

The commands that print their arguments, as they are or by a format, and the one that tests them.
-/

namespace Runbook.Host.Shell.Builtin

/-- Prints its arguments, with their escapes replaced. -/
def echo : Action := fun arguments => do
  let (newline, operands) := match arguments with
    | "-n" :: rest => ([], rest)
    | rest => (['\n'], rest)
  let (text, ends) := Escape.expand Escape.withZero? (" ".intercalate operands).toList
  Run.print (String.ofList (if ends then text else text ++ newline))

/-! ## Formats -/

/-- What was formatted so far. -/
structure Formatted where
  /-- The text, its last character first. -/
  text : List Char := []
  arguments : List String
  /-- What is to be told, the last remark first. -/
  remarks : List String := []

namespace Formatted

/-- Why formatting ends. -/
inductive Ended where
  /-- There is nothing more to be printed. -/
  | printed (formatted : Formatted)
  /-- The format makes no sense. -/
  | faulty (formatted : Formatted) (fault : String)

/-- Adds characters. -/
def add (formatted : Formatted) (text : List Char) : Formatted :=
  { formatted with text := text.reverse ++ formatted.text }

/-- Takes an argument. -/
def next (formatted : Formatted) : Option String × Formatted :=
  (formatted.arguments.head?, { formatted with arguments := formatted.arguments.tail })

/-- Takes an argument as a number; `read` gives its value, whether it is out of range, and what is left
of the text. -/
def number {α : Type} (zero : α) (ofOctet : Nat → α) (read : List Char → Option (α × Bool × List Char))
    (formatted : Formatted) : α × Formatted :=
  let (argument, formatted) := formatted.next
  let remark (text : String) : Formatted := { formatted with remarks := text :: formatted.remarks }
  match argument.map (·.toList) with
  | none => (zero, formatted)
  | some ('"' :: rest) | some ('\'' :: rest) => (ofOctet ((rest.head?.map Char.toNat).getD 0), formatted)
  | some text =>
    let name := String.ofList text
    match read text with
    | none => (zero, if text.isEmpty then formatted else remark (name ++ ": expected numeric value"))
    | some (value, isOut, rest) =>
      if !rest.isEmpty then (value, remark (name ++ ": not completely converted"))
      else if isOut then (value, remark (name ++ ": " ++ IoError.numberText 34))
      else (value, formatted)

/-- Takes an argument as a whole number with a sign. -/
def signed : Formatted → Int × Formatted :=
  number 0 (fun n => (n : Int)) fun text =>
    (Numeral.read (.anyBase false) text).map fun found =>
      let (value, isOut) := Numeral.signed found.1
      (value, isOut, found.2)

/-- Takes an argument as a whole number without a sign. -/
def unsigned : Formatted → Nat × Formatted :=
  number 0 id fun text =>
    (Numeral.read (.anyBase false) text).map fun found =>
      let (value, isOut) := Numeral.unsigned found.1
      (value, isOut, found.2)

/-- Takes an argument as a real number. -/
def real : Formatted → Real × Formatted :=
  number (.finite false 0 0) (fun n => (Real.ofFraction .double false n 1).1) (Real.read .double)

/-- The number of values that a number in a directive has. -/
def boundSize : Nat := Nat.pow 2 32

/-- A number in a directive: a star, which takes an argument of 32 bits, or digits. -/
def bound (text : List Char) (formatted : Formatted) : Int × List Char × Formatted :=
  match text with
  | '*' :: rest =>
    let (value, formatted) := formatted.signed
    (Directive.limited (Int.bmod value boundSize), rest, formatted)
  | text =>
    let (value, rest) := Numeral.digits 10 text.length 0 text
    (Directive.limited value, rest, formatted)

/-- Carries out a directive; the text after its percent sign. Gives the rest of the format. -/
def directive (text : List Char) (formatted : Formatted) : Except Ended (List Char × Formatted) := do
  let isFlag (c : Char) := "#-+ 0".toList.contains c
  let (width, rest, formatted) := bound (text.dropWhile isFlag) formatted
  let (precision, rest, formatted) := match rest with
    | '.' :: rest =>
      let (value, rest, formatted) := bound rest formatted
      (if value < 0 then none else some value.toNat, rest, formatted)
    | rest => (none, rest, formatted)
  match rest with
  | [] => throw (.faulty formatted "missing format character")
  | conversion :: rest' =>
    let directive : Directive := ⟨text.takeWhile isFlag, width, precision, conversion⟩
    match conversion with
    | 'b' =>
      let (argument, formatted) := formatted.next
      let (argument, ends) := Escape.expand Escape.withZero? ((argument.getD "").toList)
      let formatted := formatted.add (directive.text argument)
      if ends then throw (.printed formatted)
      return (rest', formatted)
    | 'c' =>
      let (argument, formatted) := formatted.next
      let c := (argument.bind (·.toList.head?)).getD '\x00'
      return (rest', formatted.add (directive.character c))
    | 's' =>
      let (argument, formatted) := formatted.next
      return (rest', formatted.add (directive.text ((argument.getD "").toList)))
    | 'd' | 'i' =>
      let (value, formatted) := formatted.signed
      return (rest', formatted.add (directive.signed value))
    | 'o' | 'u' | 'x' | 'X' =>
      let (value, formatted) := formatted.unsigned
      return (rest', formatted.add (directive.unsigned value))
    | 'a' | 'A' | 'e' | 'E' | 'f' | 'F' | 'g' | 'G' =>
      let (value, formatted) := formatted.real
      return (rest', formatted.add (directive.real .double value))
    | _ =>
      let length := text.length - rest'.length
      throw (.faulty formatted ("%" ++ String.ofList (text.take length) ++ ": invalid directive"))

/-- Goes through a format once. The first argument bounds the number of steps. -/
def pass : Nat → List Char → Formatted → Except Ended Formatted
  | 0, _, formatted => .ok formatted
  | _ + 1, [], formatted => .ok formatted
  | steps + 1, '\\' :: rest, formatted =>
    match Escape.plain? rest with
    | some (text, rest) => pass steps rest (formatted.add text)
    | none => pass steps rest (formatted.add ['\\'])
  | steps + 1, '%' :: '%' :: rest, formatted => pass steps rest (formatted.add ['%'])
  | steps + 1, '%' :: rest, formatted => do
    let (rest, formatted) ← directive rest formatted
    pass steps rest formatted
  | steps + 1, c :: rest, formatted => pass steps rest (formatted.add [c])

/-- Goes through a format until no argument is left or none is taken. -/
def passes (format : List Char) : Nat → Formatted → Except Ended Formatted
  | 0, formatted => .ok formatted
  | rounds + 1, formatted => do
    let after ← pass (format.length + 1) format formatted
    if after.arguments.isEmpty || after.arguments.length = formatted.arguments.length then return after
    passes format rounds after

end Formatted

/-- Prints its arguments by a format. -/
def printf : Action := fun arguments => do
  match ← operands arguments with
  | [] => Run.fail "usage: printf format [arg ...]"
  | format :: arguments =>
    let ended : Formatted.Ended := match Formatted.passes format.toList (arguments.length + 1) { arguments } with
      | .ok formatted => .printed formatted
      | .error ended => ended
    let (formatted, fault) := match ended with
      | .printed formatted => (formatted, none)
      | .faulty formatted fault => (formatted, some fault)
    formatted.remarks.reverse.forM Run.warn
    if let some fault := fault then Run.warn fault
    let failed ← Run.print (String.ofList formatted.text.reverse)
    if fault.isSome then
      Run.setStatus Run.mistakeStatus
      Run.stop .failure
    return if formatted.remarks.isEmpty then failed else 1

/-! ## Tests -/

/-- Tests its arguments. Under one of its names a bracket has to come last. -/
def test (name : String) : Action := fun arguments => do
  if name = "[" && arguments.getLast? != some "]" then Run.fail "missing ]"
  let arguments := if name = "[" then arguments.dropLast else arguments
  let result ← Run.act (Act.look fun process machine =>
    Test.evaluate (Test.meaningFor machine process) arguments)
  match result with
  | .ok value => return if value then 0 else 1
  | .error fault => Run.fail fault

end Runbook.Host.Shell.Builtin
