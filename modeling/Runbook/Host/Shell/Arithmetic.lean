import Runbook.Host.Shell.Arithmetic.Token

/-!
# Arithmetic

The value of an expression over whole numbers of 64 bits, and what it assigns to variables.

An expression is an assignment or a choice. An assignment is a name, a sign with an equals sign, and an
expression. A choice is a condition, maybe with a question mark, an expression, a colon and another
choice after it. So there is no assignment without parentheses after a colon or after an operator.

Values are found while the tokens are read: of two things that are wrong with an expression, the one that
is reached first is told, and the assignments before it are made. A part that cannot change the result
does not count: it has no value, and assigns nothing.
-/

namespace Runbook.Host.Shell.Arithmetic

/-- Why an expression has no value. -/
inductive Fault where
  | noPrimary
  | noEnd
  | noParenthesis
  | noColon
  | division (division : Division)
  /-- A variable holds no number. -/
  | noNumber (text : String)
  deriving DecidableEq, Repr

/-- What is said of a fault in an expression. Of a quotient that is too large nothing can be said. -/
def Fault.message? (fault : Fault) (expression : String) : Option String :=
  let inside (text : String) := some ("arithmetic expression: " ++ text ++ ": \"" ++ expression ++ "\"")
  match fault with
  | noPrimary => inside "expecting primary"
  | noEnd => inside "expecting EOF"
  | noParenthesis => inside "expecting ')'"
  | noColon => inside "expecting ':'"
  | division .byZero => inside "division by zero"
  | division .tooLarge => none
  | noNumber text => some ("Illegal number: " ++ text)

/-! ## Reading -/

/-- An assignment to a variable. -/
structure Assignment where
  name : String
  value : Int
  deriving DecidableEq, Repr

/-- How far an expression was read: the tokens that are left, and the assignments so far, the last one
first. -/
structure Progress where
  rest : List Token
  assigned : List Assignment

/-- A part of an expression that is read, with its value. -/
abbrev Reading := ReaderT (String → Except String Int) (ExceptT Fault (StateM Progress))

namespace Reading

/-- The token that comes next. -/
def next? : Reading (Option Token) := return (← get).rest.head?

/-- Goes on to the token after the next one. -/
def skip : Reading Unit := modify fun progress => { progress with rest := progress.rest.tail }

/-- The next token, which is taken. -/
def take? : Reading (Option Token) := do
  let token ← next?
  skip
  return token

/-- Takes a token, or fails. -/
def expect (token : Token) (fault : Fault) : Reading Unit := do
  if (← take?) != some token then throw fault

/-- The value of a variable. -/
def value (name : String) : Reading Int := do
  match (← get).assigned.find? (·.name == name) with
  | some assignment => return assignment.value
  | none =>
    match (← read) name with
    | .ok value => return value
    | .error text => throw (.noNumber text)

/-- The value of an operator for two operands. -/
def combine (operator : Operator) (a b : Int) : Reading Int :=
  match operator.apply a b with
  | .ok value => return value
  | .error division => throw (.division division)

/-- Gives a variable a value, which an operator may make of the old one and another value. -/
def assign (name : String) (operator : Option Operator) (b : Int) : Reading Int := do
  let value ← match operator with
    | some operator => combine operator (← value name) b
    | none => pure b
  modify fun progress => { progress with assigned := ⟨name, value⟩ :: progress.assigned }
  return value

/-- The operator that comes next, if it binds at least as tightly as asked for. -/
def operator? (tightness : Nat) : Reading (Option Operator) := do
  match ← next? with
  | some (.operator operator) => return if tightness ≤ operator.tightness then some operator else none
  | _ => return none

mutual

/-- An operand, with the signs before it. The first argument of this function and of those below bounds
the number of steps, and the second one says whether the part counts. -/
def operand : Nat → Bool → Reading Int
  | 0, _ => throw .noPrimary
  | steps + 1, counts => do
    match ← take? with
    | some (.number value) => return value
    | some (.variableName name) => if counts then value name else return 0
    | some (.operator .plus) => operand steps counts
    | some (.operator .minus) => return wrap (-(← operand steps counts))
    | some .negation => return truth ((← operand steps counts) == 0)
    | some .complement => return -(← operand steps counts) - 1
    | some .opening =>
      let value ← expression steps counts
      expect .closing .noParenthesis
      return value
    | _ => throw .noPrimary

/-- The operands and operators after a value, as long as these bind tightly enough. -/
def chain : Nat → Bool → Nat → Int → Reading Int
  | 0, _, _, _ => throw .noPrimary
  | steps + 1, counts, tightness, a => do
    match ← operator? tightness with
    | none => return a
    | some operator =>
      skip
      let b ← operand steps counts
      let b ← chain steps counts (operator.tightness + 1) b
      let value ← if counts then combine operator a b else pure b
      chain steps counts tightness value

/-- Values that must all be true. Those after one that is not do not count. -/
def conjunction : Nat → Bool → Reading Int
  | 0, _ => throw .noPrimary
  | steps + 1, counts => do
    let a ← operand steps counts
    let a ← chain steps counts 0 a
    if (← next?) != some .both then return a
    skip
    let b ← conjunction steps (counts && a != 0)
    return truth (a != 0 && b != 0)

/-- Values of which one must be true. Those after it do not count. -/
def disjunction : Nat → Bool → Reading Int
  | 0, _ => throw .noPrimary
  | steps + 1, counts => do
    let a ← conjunction steps counts
    if (← next?) != some .either then return a
    skip
    let b ← disjunction steps (counts && a == 0)
    return truth (a != 0 || b != 0)

/-- A choice between two values, of which the other one does not count. -/
def choice : Nat → Bool → Reading Int
  | 0, _ => throw .noPrimary
  | steps + 1, counts => do
    let condition ← disjunction steps counts
    if (← next?) != some .question then return condition
    skip
    let yes ← expression steps (counts && condition != 0)
    expect .colon .noColon
    let no ← choice steps (counts && condition == 0)
    return if condition = 0 then no else yes

/-- An assignment or a choice. -/
def expression : Nat → Bool → Reading Int
  | 0, _ => throw .noPrimary
  | steps + 1, counts => do
    match (← get).rest with
    | .variableName name :: .assign operator :: _ =>
      skip
      skip
      let b ← expression steps counts
      if counts then assign name operator b else return b
    | _ => choice steps counts

end

/-- An expression with nothing after it. -/
def all (steps : Nat) : Reading Int := do
  let value ← expression steps true
  if (← next?).isSome then throw .noEnd
  return value

end Reading

/-- The number of functions that may read a part before a token of it is taken. -/
def depth : Nat := 6

/-- The value of an expression, and the assignments in it, in order. -/
def evaluate (value : String → Except String Int) (text : String) :
    Except Fault Int × List Assignment :=
  let tokens := Token.scan text
  let (result, progress) := Reading.all (depth * (tokens.length + 1)) value |>.run.run ⟨tokens, []⟩
  (result, progress.assigned.reverse)

end Runbook.Host.Shell.Arithmetic
