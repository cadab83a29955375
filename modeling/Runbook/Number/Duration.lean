import Runbook.Number.Binary64

/-!
# Durations

Whole numbers of nanoseconds, below `2 ^ 64` seconds.

* `Duration.ofSeconds` takes the nanosecond nearest to a number of seconds, the even one of two.
* `Duration.toText` uses the largest unit of seconds, milliseconds, microseconds and nanoseconds that
  fits, and writes the fraction exactly.
-/

namespace Runbook.Number

/-- A length of time. -/
structure Duration where
  nanoseconds : Nat
  deriving DecidableEq, Repr

namespace Duration

/-- The nanoseconds of a second. -/
def second : Nat := 1000000000

/-- Seconds and nanoseconds. -/
def ofParts (seconds nanoseconds : Nat) : Duration := ⟨seconds * second + nanoseconds⟩

/-- No time at all. -/
def isZero (duration : Duration) : Bool := duration.nanoseconds == 0

/-- Why a number of seconds is no duration. -/
inductive Fault where
  | negative
  | outOfRange
  deriving DecidableEq, Repr

/-- What a fault is called. -/
def Fault.message : Fault → String
  | negative => "cannot convert float seconds to Duration: value is negative"
  | outOfRange => "cannot convert float seconds to Duration: value is either too big or NaN"

/-- The nanosecond nearest to a number of seconds. The negative zero is zero. -/
def ofSeconds : Binary64 → Except Fault Duration
  | .nan => .error .outOfRange
  | .infinite negative => .error (if negative then .negative else .outOfRange)
  | .finite negative mantissa exponent =>
    if negative ∧ mantissa ≠ 0 then .error .negative
    else
      let (p, q) := Binary64.power 2 exponent
      if Nat.pow 2 64 * q ≤ mantissa * p then .error .outOfRange
      else .ok ⟨roundHalfEven (mantissa * p * second) q⟩

/-- The digits of `part / 10 ^ places` after the point, without zeros at the end. -/
def places (part places : Nat) : List Char :=
  let digits := Nat.toDigits 10 part
  let padded := List.replicate (places - digits.length) '0' ++ digits
  (padded.reverse.dropWhile (· == '0')).reverse

/-- A number of units of `10 ^ digits` nanoseconds, with the name of the unit. -/
def inUnit (nanoseconds digits : Nat) (unit : String) : String :=
  let whole := nanoseconds / Nat.pow 10 digits
  let part := nanoseconds % Nat.pow 10 digits
  let fraction := if part = 0 then [] else '.' :: places part digits
  toString whole ++ String.ofList fraction ++ unit

/-- The text of a duration. -/
def toText (duration : Duration) : String :=
  let n := duration.nanoseconds
  if second ≤ n then inUnit n 9 "s"
  else if 1000000 ≤ n then inUnit n 6 "ms"
  else if 1000 ≤ n then inUnit n 3 "µs"
  else inUnit n 0 "ns"

end Duration

end Runbook.Number
