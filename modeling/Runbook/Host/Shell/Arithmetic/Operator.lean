/-!
# Operators of arithmetic

An `Operator` stands between two operands, which are whole numbers of 64 bits. `Operator.apply` gives its
value, and `Operator.tightness` says how tightly it binds.
-/

namespace Runbook.Host.Shell.Arithmetic

/-! ## Numbers of 64 bits -/

/-- The number of values. -/
def size : Nat := Nat.pow 2 64

/-- The value of 64 bits that a number comes to. -/
def wrap (n : Int) : Int := Int.bmod n size

/-- The bits of a value. -/
def bits (n : Int) : Nat := (n % size).toNat

/-- A power of two, for the shifts. -/
def power (n : Int) : Nat := Nat.pow 2 (n % 64).toNat

/-- One or zero. -/
def truth (b : Bool) : Int := if b then 1 else 0

/-! ## Operators -/

/-- An operator between two operands. -/
inductive Operator where
  | times
  | dividedBy
  | remainder
  | plus
  | minus
  | shiftedLeft
  | shiftedRight
  | less
  | atMost
  | greater
  | atLeast
  | equal
  | unequal
  | bitsInBoth
  | bitsInOne
  | bitsInEither
  deriving DecidableEq, Repr

/-- Why an operator has no value for two operands. -/
inductive Division where
  | byZero
  /-- The quotient is no number of 64 bits. -/
  | tooLarge
  deriving DecidableEq, Repr

namespace Operator

/-- How tightly an operator binds. -/
def tightness : Operator → Nat
  | times | dividedBy | remainder => 7
  | plus | minus => 6
  | shiftedLeft | shiftedRight => 5
  | less | atMost | greater | atLeast => 4
  | equal | unequal => 3
  | bitsInBoth => 2
  | bitsInOne => 1
  | bitsInEither => 0

/-- Divides, if there is a quotient. The remainder of a quotient that is too large is not found either. -/
def divide (value : Int → Int → Int) (a b : Int) : Except Division Int :=
  if b = 0 then .error .byZero
  else if wrap (a.tdiv b) = a.tdiv b then .ok (value a b)
  else .error .tooLarge

/-- The value of an operator for two operands. -/
def apply (operator : Operator) (a b : Int) : Except Division Int :=
  match operator with
  | times => .ok (wrap (a * b))
  | dividedBy => divide Int.tdiv a b
  | remainder => divide Int.tmod a b
  | plus => .ok (wrap (a + b))
  | minus => .ok (wrap (a - b))
  | shiftedLeft => .ok (wrap (a * power b))
  | shiftedRight => .ok (a / power b)
  | less => .ok (truth (decide (a < b)))
  | atMost => .ok (truth (decide (a ≤ b)))
  | greater => .ok (truth (decide (b < a)))
  | atLeast => .ok (truth (decide (b ≤ a)))
  | equal => .ok (truth (a == b))
  | unequal => .ok (truth (a != b))
  | bitsInBoth => .ok (wrap (bits a &&& bits b : Nat))
  | bitsInOne => .ok (wrap (bits a ^^^ bits b : Nat))
  | bitsInEither => .ok (wrap (bits a ||| bits b : Nat))

end Operator

end Runbook.Host.Shell.Arithmetic
