import Runbook.Host.Machine
import Runbook.Host.Utility.Numeral

/-!
# Tests

The conditions that a shell can test: of texts, of numbers and of files. `Test.evaluate` gives the value
of the arguments of a test. What an operator means for its operands is given as two functions, for it may
ask for files.

An argument may be taken for an operator or for an operand, as what comes after it shows. The first
argument of the functions that call each other bounds the number of steps.
-/

namespace Runbook.Host.Shell.Test

/-- What an argument is taken for. -/
inductive Token where
  | none
  | operand
  | unary (operator : String)
  | binary (operator : String)
  | not
  | and
  | or
  | opening
  | closing
  deriving DecidableEq, Repr

/-- The operators of one operand. -/
def unaryOperators : List String :=
  ["-r", "-w", "-x", "-e", "-f", "-d", "-c", "-b", "-p", "-u", "-g", "-k", "-s", "-t", "-z", "-n",
    "-h", "-O", "-G", "-L", "-S"]

/-- The operators of two operands. -/
def binaryOperators : List String :=
  ["=", "!=", "<", ">", "-eq", "-ne", "-ge", "-gt", "-le", "-lt", "-nt", "-ot", "-ef"]

/-- What an argument may be besides an operand. -/
def operator? (argument : String) : Option Token :=
  match argument with
  | "!" => some .not
  | "-a" => some .and
  | "-o" => some .or
  | "(" => some .opening
  | ")" => some .closing
  | argument =>
    if unaryOperators.contains argument then some (.unary argument)
    else if binaryOperators.contains argument then some (.binary argument)
    else .none

/-- The token is an operator of two operands. -/
def isBinary : Option Token → Bool
  | some (.binary _) => true
  | _ => false

/-- The first argument would be an operator of one operand, but what follows shows that it is an operand
itself. -/
def isOperand : List String → Bool
  | [] | [_] => true
  | [_, _] => false
  | _ :: second :: _ => isBinary (operator? second)

/-- What the first argument is taken for. -/
def token : List String → Token
  | [] => .none
  | first :: rest =>
    match operator? first with
    | some (.unary operator) => if isOperand (first :: rest) then .operand else .unary operator
    | some .opening => if rest.isEmpty then .operand else .opening
    | some token => token
    | none => .operand

/-- What operators mean. -/
structure Meaning where
  unary : String → String → Except String Bool
  binary : String → String → String → Except String Bool

/-- A value, and the arguments from the last one that it took. -/
abbrev Tested := Except String (Bool × List String)

/-- What is wrong with an operator. -/
def fault (operator text : String) : String :=
  if operator.isEmpty then text else operator ++ ": " ++ text

mutual

/-- Tests of which one has to hold. -/
def anyOf (meaning : Meaning) : Nat → Token → List String → Tested
  | 0, _, arguments => .ok (false, arguments)
  | steps + 1, first, arguments => do
    let (value, arguments) ← allOf meaning steps first arguments
    if token arguments.tail != .or then return (value, arguments)
    let arguments := arguments.drop 2
    let (other, arguments) ← anyOf meaning steps (token arguments) arguments
    return (value || other, arguments)

/-- Tests all of which have to hold. -/
def allOf (meaning : Meaning) : Nat → Token → List String → Tested
  | 0, _, arguments => .ok (false, arguments)
  | steps + 1, first, arguments => do
    let (value, arguments) ← negated meaning steps first arguments
    if token arguments.tail != .and then return (value, arguments)
    let arguments := arguments.drop 2
    let (other, arguments) ← allOf meaning steps (token arguments) arguments
    return (value && other, arguments)

/-- A test that may be negated. -/
def negated (meaning : Meaning) : Nat → Token → List String → Tested
  | 0, _, arguments => .ok (false, arguments)
  | steps + 1, first, arguments => do
    if first != .not then return ← single meaning steps first arguments
    let next := token arguments.tail
    let (value, arguments) ← negated meaning steps next
      (if next == .none then arguments else arguments.tail)
    return (!value, arguments)

/-- A single test. -/
def single (meaning : Meaning) : Nat → Token → List String → Tested
  | 0, _, arguments => .ok (false, arguments)
  | steps + 1, first, arguments =>
    match first, arguments with
    | .none, arguments => .ok (false, arguments)
    | _, [] => .ok (false, [])
    | .opening, _ :: rest => do
      let next := token rest
      if next == .closing then return (false, rest)
      let (value, rest) ← anyOf meaning steps next rest
      if token rest.tail != .closing then throw "closing paren expected"
      return (value, rest.tail)
    | .unary operator, _ :: rest =>
      match rest with
      | [] => .error (fault operator "argument expected")
      | operand :: _ => do return (← meaning.unary operator operand, rest)
    | _, operand :: rest =>
      match token rest, rest with
      | .binary operator, _ :: second =>
        match second with
        | [] => .error (fault operator "argument expected")
        | other :: _ => do return (← meaning.binary operand operator other, second)
      | _, _ => .ok (!operand.isEmpty, arguments)

end

/-- The value of a test of which the first argument is taken for something. -/
def whole (meaning : Meaning) (first : Token) (arguments : List String) : Except String Bool := do
  let (value, rest) ← anyOf meaning (5 * arguments.length + 5) first arguments
  match rest with
  | operator :: _ :: _ => throw (fault operator "unexpected operator")
  | _ => return value

/-- The value of a test. With few arguments their number says what each of them is; the second one of two
negations then adds nothing. -/
def evaluate (meaning : Meaning) (arguments : List String) : Except String Bool :=
  match arguments with
  | [] => .ok false
  | [first, operator, second] =>
    if isBinary (operator? operator) then whole meaning .operand arguments
    else if first = "(" ∧ second = ")" then whole meaning (token [operator]) [operator]
    else if first = "!" then (evaluate meaning [operator, second]).map (!·)
    else whole meaning (token arguments) arguments
  | [first, second, third, last] =>
    if first = "(" ∧ last = ")" then whole meaning (token [second, third]) [second, third]
    else if first = "!" ∧ second = "!" ∧ !isBinary (operator? third) then
      evaluate meaning [second, third, last]
    else if first = "!" then (evaluate meaning [second, third, last]).map (!·)
    else whole meaning (token arguments) arguments
  | arguments => whole meaning (token arguments) arguments
  termination_by arguments.length

/-! ## The meaning of operators -/

/-- The number that an operand denotes. -/
def number (text : String) : Except String Int :=
  match Numeral.read .decimal text.toList with
  | some (value, rest) =>
    if rest.all isSpace && !(Numeral.signed value).2 then .ok value
    else .error ("Illegal number: " ++ text)
  | none => .error ("Illegal number: " ++ text)

/-- What an operator says of one operand, for a directory of a machine. -/
def unary (machine : Machine) (process : Nat) (operator operand : String) : Except String Bool := do
  let directory := machine.directory process
  let found := (machine.files.status directory operand).toOption.map (·.2)
  let has (property : Node → Bool) : Bool := found.any property
  match operator with
  | "-n" => return !operand.isEmpty
  | "-z" => return operand.isEmpty
  | "-t" =>
    let _ ← number operand
    return false
  | "-e" | "-r" | "-w" | "-O" | "-G" => return found.isSome
  | "-x" => return has fun node => node.isDirectory || node.isExecutable
  | "-d" => return has Node.isDirectory
  | "-f" => return has Node.isRegular
  | "-c" => return has Node.isDevice
  | "-s" => return has fun node => 0 < node.size
  | "-u" => return has fun node => node.mode &&& 0o4000 != 0
  | "-g" => return has fun node => node.mode &&& 0o2000 != 0
  | "-k" => return has fun node => node.mode &&& 0o1000 != 0
  | "-h" | "-L" =>
    match machine.files.find directory operand false with
    | .ok (_, number) => return (machine.files.node number).isLink
    | .error _ => return false
  | _ => return false

/-- What an operator says of two operands, for a directory of a machine. -/
def binary (machine : Machine) (process : Nat) (first operator second : String) :
    Except String Bool := do
  let find (path : String) : Option (Location × Node) :=
    (machine.files.status (machine.directory process) path).toOption
  let compare (test : Int → Int → Bool) : Except String Bool := do
    return test (← number first) (← number second)
  let compareTimes (test : Int → Int → Bool) : Bool :=
    match find first, find second with
    | some (_, a), some (_, b) => test a.changed b.changed
    | _, _ => false
  match operator with
  | "=" => return first == second
  | "!=" => return first != second
  | "<" => return decide (first < second)
  | ">" => return decide (second < first)
  | "-eq" => compare (· == ·)
  | "-ne" => compare (· != ·)
  | "-lt" => compare (· < ·)
  | "-le" => compare (· ≤ ·)
  | "-gt" => compare (· > ·)
  | "-ge" => compare (· ≥ ·)
  | "-nt" => return compareTimes (· > ·)
  | "-ot" => return compareTimes (· < ·)
  | _ =>
    match find first, find second with
    | some (a, _), some (b, _) => return machine.files.number? a == machine.files.number? b
    | _, _ => return false

/-- What operators mean for a process of a machine. -/
def meaningFor (machine : Machine) (process : Nat) : Meaning :=
  ⟨unary machine process, binary machine process⟩

end Runbook.Host.Shell.Test
