import Runbook.Host.Utility.Numeral
import Runbook.Number.Binary64

/-!
# Real numbers in binary formats

Numbers with a point, as programs read and print them. A `Precision` says how many binary digits a
number has and how far its exponent goes.

* `Real.read` finds the number nearest to the one at the start of a text.
* `Real.fixed`, `Real.scientific` and `Real.hexadecimal` print a number with so many places, rounded
  once from its exact value; of two that are equally near the even one is printed.
-/

namespace Runbook.Host

open Number (roundHalfEven)
open Number.Binary64 (power binaryOrder)

/-- A binary format. -/
structure Precision where
  /-- The number of binary digits. -/
  digits : Nat
  /-- The exponent of the last digit of the smallest numbers. -/
  least : Int
  /-- The exponent of the last digit of the largest numbers. -/
  greatest : Int
  /-- How many binary digits stand before the point in hexadecimal text. -/
  leading : Nat

namespace Precision

/-- Eight octets. -/
def double : Precision := ⟨53, -1074, 971, 1⟩

/-- Ten octets. -/
def extended : Precision := ⟨64, -16445, 16320, 4⟩

end Precision

/-- A number of a binary format. A finite one is `mantissa * 2 ^ exponent`. -/
inductive Real where
  | nan (negative : Bool)
  | infinite (negative : Bool)
  | finite (negative : Bool) (mantissa : Nat) (exponent : Int)
  deriving DecidableEq, Repr

namespace Real

/-! ## Reading -/

/-- The number nearest to `num / den`, and whether it is out of the range of the format. -/
def ofFraction (precision : Precision) (negative : Bool) (num den : Nat) : Real × Bool :=
  if num = 0 then (finite negative 0 0, false)
  else
    let exponent := max precision.least (binaryOrder num den - (precision.digits - 1))
    let (p, q) := power 2 exponent
    let mantissa := roundHalfEven (num * q) (den * p)
    let isSmall := mantissa < Nat.pow 2 (precision.digits - 1)
    let isExact := mantissa * (den * p) = num * q
    let (mantissa, exponent) := if mantissa = Nat.pow 2 precision.digits
      then (Nat.pow 2 (precision.digits - 1), exponent + 1) else (mantissa, exponent)
    if precision.greatest < exponent then (infinite negative, true)
    else (finite negative mantissa exponent, isSmall && !isExact)

/-- The number nearest to `digits * 10 ^ exponent`. Numbers far out of any range are settled by their
order alone. -/
def ofDecimal (precision : Precision) (negative : Bool) (digits : Nat) (exponent : Int) : Real × Bool :=
  let order : Int := exponent + (Nat.toDigits 10 digits).length
  if digits = 0 then (finite negative 0 0, false)
  else if 6000 < order then (infinite negative, true)
  else if order < -6000 then (finite negative 0 0, true)
  else
    let (p, q) := power 10 exponent
    ofFraction precision negative (digits * p) q

/-- The exponent after a letter, and the rest. -/
def exponent (letter : Char) (text : List Char) : Int × List Char :=
  match text with
  | c :: rest =>
    if c.toLower = letter then
      let (negative, digits) := match rest with
        | '-' :: rest => (true, rest)
        | '+' :: rest => (false, rest)
        | rest => (false, rest)
      match Numeral.inBase 10 digits with
      | some (value, rest) => (if negative then -(value : Int) else (value : Int), rest)
      | none => (0, text)
    else (0, text)
  | [] => (0, [])

/-- The digits before and after a point, and the rest: the value of all of them, and how many come
after the point. -/
def places (base : Nat) (text : List Char) : Option (Nat × Nat × List Char) :=
  let isDigit (c : Char) := (Numeral.digit? base c).isSome
  let whole := text.takeWhile isDigit
  let rest := text.dropWhile isDigit
  let (part, rest') := match rest with
    | '.' :: after => (after.takeWhile isDigit, after.dropWhile isDigit)
    | _ => ([], rest)
  if whole.isEmpty && part.isEmpty then none
  else
    let all := whole ++ part
    some ((Numeral.digits base all.length 0 all).1, part.length, rest')

/-- A text starts with a word, whatever the case of its letters; the rest. -/
def afterWord? (word : String) (text : List Char) : Option (List Char) :=
  if (text.take word.length).map Char.toLower = word.toList then some (text.drop word.length) else none

/-- A number without a sign. -/
def readUnsigned (precision : Precision) (negative : Bool) (text : List Char) :
    Option (Real × Bool × List Char) :=
  let hexadecimal : Option (Real × Bool × List Char) := do
    let rest ← afterWord? "0x" text
    let (digits, places, rest) ← places 16 rest
    let (e, rest) := exponent 'p' rest
    let shift := max (-40000) (min 40000 (e - 4 * (places : Int)))
    let (p, q) := power 2 shift
    let (real, isOut) := ofFraction precision negative (digits * p) q
    return (real, isOut, rest)
  let decimal : Option (Real × Bool × List Char) := do
    let (digits, places, rest) ← places 10 text
    let (e, rest) := exponent 'e' rest
    let (real, isOut) := ofDecimal precision negative digits (e - (places : Int))
    return (real, isOut, rest)
  let infinity : Option (Real × Bool × List Char) :=
    ((afterWord? "infinity" text).or (afterWord? "inf" text)).map fun rest =>
      (infinite negative, false, rest)
  let noNumber : Option (Real × Bool × List Char) := do
    let rest ← afterWord? "nan" text
    match rest with
    | '(' :: inside =>
      let name := inside.takeWhile fun c => c.isAlphanum || c == '_'
      match inside.drop name.length with
      | ')' :: rest => return (nan negative, false, rest)
      | _ => return (nan negative, false, rest)
    | rest => return (nan negative, false, rest)
  hexadecimal.or (decimal.or (infinity.or noNumber))

/-- The number at the start of a text, whether it is out of range, and the rest. -/
def read (precision : Precision) (text : List Char) : Option (Real × Bool × List Char) :=
  let (negative, rest) := Numeral.sign text
  readUnsigned precision negative rest

/-! ## Printing -/

/-- The number is below zero, or is the zero of that side. -/
def isNegative : Real → Bool
  | nan negative | infinite negative | finite negative _ _ => negative

/-- The digits of a number with a point before the last `count` of them. -/
def withPoint (count : Nat) (keep : Bool) (number : Nat) : List Char :=
  let digits := Nat.toDigits 10 number
  let digits := List.replicate (count + 1 - digits.length) '0' ++ digits
  let split := digits.length - count
  digits.take split ++ (if count = 0 && !keep then [] else '.' :: digits.drop split)

/-- With so many places. -/
def fixed (count : Nat) (keep : Bool) (mantissa : Nat) (exponent : Int) : List Char :=
  let (p, q) := power 2 exponent
  withPoint count keep (roundHalfEven (mantissa * p * Nat.pow 10 count) q)

/-- The greatest `e` with `10 ^ e ≤ num / den`, searched downwards from a start above it. -/
def decimalOrder (num den : Nat) : Nat → Int → Int
  | 0, start => start
  | steps + 1, start =>
    let (p, q) := power 10 start
    if p * den ≤ num * q then start else decimalOrder num den steps (start - 1)

/-- One digit and so many places as one number, and a power of ten. -/
def rounded (count : Nat) (mantissa : Nat) (exponent : Int) : Nat × Int :=
  if mantissa = 0 then (0, 0)
  else
    let (p, q) := power 2 exponent
    let start : Int := (((Nat.log2 mantissa : Int) + exponent + 1) * 30103).fdiv 100000 + 1
    let order := decimalOrder (mantissa * p) q 8 start
    let (r, s) := power 10 (order - count)
    let number := roundHalfEven (mantissa * p * s) (q * r)
    if number = Nat.pow 10 (count + 1) then (Nat.pow 10 count, order + 1) else (number, order)

/-- An exponent with its sign and at least so many digits. -/
def exponentText (count : Nat) (exponent : Int) : List Char :=
  let digits := Nat.toDigits 10 exponent.natAbs
  (if exponent < 0 then '-' else '+') :: List.replicate (count - digits.length) '0' ++ digits

/-- With one digit before the point, so many places and an exponent. -/
def scientific (count : Nat) (keep : Bool) (mantissa : Nat) (exponent : Int) : List Char :=
  let (number, order) := rounded count mantissa exponent
  withPoint count keep number ++ 'e' :: exponentText 2 order

/-- Without the zeros at the end of the places, and without a point that ends the text unless it is to be
kept. -/
def withoutZeros (keep : Bool) (text : List Char) : List Char :=
  if text.contains '.' then
    match text.reverse.dropWhile (· == '0') with
    | '.' :: rest => if keep then (rest.reverse ++ ['.']) else rest.reverse
    | rest => rest.reverse
  else text

/-- With so many digits altogether, in the shorter of the two forms. -/
def general (count : Nat) (keep : Bool) (mantissa : Nat) (exponent : Int) : List Char :=
  let count := max count 1
  let (_, order) := rounded (count - 1) mantissa exponent
  if -4 ≤ order && order < count then
    let text := fixed (count - 1 - order).toNat keep mantissa exponent
    if keep then text else withoutZeros false text
  else
    let text := scientific (count - 1) keep mantissa exponent
    if keep then text
    else withoutZeros false (text.takeWhile (· != 'e')) ++ text.dropWhile (· != 'e')

/-- In hexadecimal digits with a power of two; all the places that there are unless a number of them is
given. If the digits are rounded to a further one, the exponent takes it up. -/
def hexadecimal (precision : Precision) (count : Option Nat) (keep : Bool) (mantissa : Nat)
    (exponent : Int) : List Char :=
  let full := (precision.digits - precision.leading + 3) / 4
  let shift := precision.digits - 1 - Nat.log2 mantissa
  let scaled := if mantissa = 0 then 0
    else mantissa * Nat.pow 2 (shift + (4 * full + precision.leading - precision.digits))
  let e : Int := if mantissa = 0 then 0
    else exponent - shift + (precision.digits : Int) - (precision.leading : Int)
  let write (number places : Nat) : List Char :=
    let digits := Nat.toDigits 16 number
    let digits := List.replicate (places + 1 - digits.length) '0' ++ digits
    let split := digits.length - places
    digits.take split ++ (if places = 0 && !keep then [] else '.' :: digits.drop split)
  let ending (exponent : Int) : List Char := 'p' :: exponentText 1 exponent
  match count with
  | none => withoutZeros keep (write scaled full) ++ ending e
  | some places =>
    if full ≤ places then
      let text := write scaled full
      text ++ (if full = 0 && 0 < places then ['.'] else []) ++ List.replicate (places - full) '0' ++ ending e
    else
      let number := roundHalfEven scaled (Nat.pow 16 (full - places))
      if number = Nat.pow 16 (places + 1) then write (Nat.pow 16 places) places ++ ending (e + 4)
      else write number places ++ ending e

end Real

end Runbook.Host
