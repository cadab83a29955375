import Runbook.Number.Rounding

/-!
# Binary floating-point numbers of 64 bits

A `Binary64` is a number of the binary64 format by its parts; all arithmetic on it is exact.

* `ofDecimal` is the number nearest to a decimal, the one with the even mantissa of two.
* `parse?` reads a decimal with an optional point and exponent, or the name of a special value.
* `shortest` finds the fewest decimal digits that only this number is nearest to, and of those the
  digits nearest to it.
* `toText` writes these digits without an exponent.
-/

namespace Runbook.Number

/-- A number of the format. A finite one is `mantissa * 2 ^ exponent`, with a mantissa below `2 ^ 53`
that is at least `2 ^ 52` unless the exponent is the least one. -/
inductive Binary64 where
  | nan
  | infinite (negative : Bool)
  | finite (negative : Bool) (mantissa : Nat) (exponent : Int)
  deriving DecidableEq, Repr

namespace Binary64

/-- The exponent of the smallest positive numbers. -/
def leastExponent : Int := -1074

/-- The exponent of the largest finite numbers. -/
def greatestExponent : Int := 971

/-- `base ^ exponent` as a fraction. -/
def power (base : Nat) (exponent : Int) : Nat × Nat :=
  if exponent < 0 then (1, base.pow exponent.natAbs) else (base.pow exponent.natAbs, 1)

/-! ## The nearest number -/

/-- The greatest `e` with `2 ^ e ≤ num / den`, both positive. -/
def binaryOrder (num den : Nat) : Int :=
  let guess : Int := (Nat.log2 num : Int) - Nat.log2 den
  let (p, q) := power 2 guess
  if p * den ≤ num * q then guess else guess - 1

/-- The number nearest to `num / den`, of two the one with the even mantissa. -/
def ofFraction (negative : Bool) (num den : Nat) : Binary64 :=
  if num = 0 then finite negative 0 leastExponent
  else
    let exponent := max leastExponent (binaryOrder num den - 52)
    let (p, q) := power 2 exponent
    let mantissa := roundHalfEven (num * q) (den * p)
    let (mantissa, exponent) :=
      if mantissa = Nat.pow 2 53 then (Nat.pow 2 52, exponent + 1) else (mantissa, exponent)
    if greatestExponent < exponent then infinite negative else finite negative mantissa exponent

/-- The number nearest to `digits * 10 ^ exponent`. Decimals far outside the range of the format are
settled by their order alone. -/
def ofDecimal (negative : Bool) (digits : Nat) (exponent : Int) : Binary64 :=
  let order : Int := exponent + (Nat.toDigits 10 digits).length
  if digits = 0 then finite negative 0 leastExponent
  else if 400 < order then infinite negative
  else if order < -400 then finite negative 0 leastExponent
  else
    let (p, q) := power 10 exponent
    ofFraction negative (digits * p) q

/-! ## Reading -/

/-- The value of decimal digits. -/
def digitsValue (digits : List Char) : Nat :=
  digits.foldl (fun value c => 10 * value + (c.toNat - '0'.toNat)) 0

/-- A sign, if there is one, and the rest: whether the sign is a minus. -/
def sign : List Char → Bool × List Char
  | '-' :: rest => (true, rest)
  | '+' :: rest => (false, rest)
  | rest => (false, rest)

/-- The exponent of a decimal, which is zero if the text is at its end. -/
def exponent? : List Char → Option Int
  | [] => some 0
  | e :: rest =>
    let (negative, digits) := sign rest
    if (e = 'e' ∨ e = 'E') ∧ digits ≠ [] ∧ digits.all Char.isDigit then
      some (if negative then -(digitsValue digits : Int) else digitsValue digits)
    else none

/-- An unsigned decimal: digits before or after an optional point, and an optional exponent. -/
def decimal? (negative : Bool) (text : List Char) : Option Binary64 :=
  let whole := text.takeWhile Char.isDigit
  let rest := text.dropWhile Char.isDigit
  let (places, rest) := match rest with
    | '.' :: rest => (rest.takeWhile Char.isDigit, rest.dropWhile Char.isDigit)
    | rest => ([], rest)
  if whole = [] ∧ places = [] then none
  else (exponent? rest).map fun exponent =>
    ofDecimal negative (digitsValue (whole ++ places)) (exponent - places.length)

/-- Reads a number. -/
def parse? (text : String) : Option Binary64 :=
  let (negative, rest) := sign text.toList
  let name := rest.map Char.toLower
  if name = "inf".toList ∨ name = "infinity".toList then some (infinite negative)
  else if name = "nan".toList then some nan
  else decimal? negative rest

/-! ## The shortest decimal -/

/-- The numbers that round to a finite number lie between two bounds, all given in quarters of the
unit of its last place. The bounds themselves belong to them if the mantissa is even. -/
structure Interval where
  low : Nat
  value : Nat
  high : Nat
  closed : Bool

/-- The interval of a positive number. Below a power of two the format is twice as fine. -/
def interval (mantissa : Nat) (exponent : Int) : Interval :=
  let finer := mantissa = Nat.pow 2 52 ∧ leastExponent < exponent
  { low := if finer then 4 * mantissa - 1 else 4 * mantissa - 2
    value := 4 * mantissa
    high := 4 * mantissa + 2
    closed := mantissa % 2 = 0 }

/-- The least `e` with `num / den < 10 ^ e`, searched upwards from `start`. -/
def decimalOrder (num den : Nat) : Nat → Int → Int
  | 0, start => start
  | fuel + 1, start =>
    let (p, q) := power 10 start
    if num * q < p * den then start else decimalOrder num den fuel (start + 1)

/-- The point of the decimal grid `10 ^ grid` that lies in the interval and is nearest to its value,
the upper one of two; `num / den` is a quarter of the unit of the interval. -/
def onGrid (i : Interval) (num den : Nat) (grid : Int) : Option Nat :=
  let (p, q) := power 10 grid
  let denominator := p * den
  let scale := num * q
  let inside (n : Nat) : Bool :=
    if i.closed then i.low * scale ≤ n * denominator && n * denominator ≤ i.high * scale
    else i.low * scale < n * denominator && n * denominator < i.high * scale
  let below := i.value * scale / denominator
  let remainder := i.value * scale % denominator
  let first := if 2 * remainder < denominator then below else below + 1
  let second := if 2 * remainder < denominator then below + 1 else below
  if inside first then some first else if inside second then some second else none

/-- Tries the grids from coarse to fine. -/
def search (i : Interval) (num den : Nat) : Nat → Int → Nat × Int
  | 0, grid => (i.value * num / den, grid)
  | fuel + 1, grid =>
    match onGrid i num den grid with
    | some digits => (digits, grid)
    | none => search i num den fuel (grid - 1)

/-- Digits and a power of ten for a positive number. -/
def shortest (mantissa : Nat) (exponent : Int) : Nat × Int :=
  let (num, den) := power 2 (exponent - 2)
  let order := decimalOrder (4 * mantissa * num) den 700 (-330)
  search (interval mantissa exponent) num den 18 order

/-! ## Writing -/

/-- `digits * 10 ^ exponent` without an exponent. -/
def positional (digits : Nat) (exponent : Int) : List Char :=
  let text := Nat.toDigits 10 digits
  if 0 ≤ exponent then text ++ List.replicate exponent.natAbs '0'
  else
    let text := List.replicate (exponent.natAbs + 1 - text.length) '0' ++ text
    let point := text.length - exponent.natAbs
    text.take point ++ '.' :: text.drop point

/-- The text of a number. -/
def toText : Binary64 → String
  | nan => "NaN"
  | infinite negative => if negative then "-inf" else "inf"
  | finite negative mantissa exponent =>
    let minus := if negative then "-" else ""
    if mantissa = 0 then minus ++ "0"
    else
      let (digits, grid) := shortest mantissa exponent
      minus ++ String.ofList (positional digits grid)

end Binary64

end Runbook.Number
