import Runbook.Host.Utility.Real

/-!
# Formats

The texts that directives of a format make of their arguments. A `Directive` has flags, a width, a
precision and a letter that says what kind of argument it takes.
-/

namespace Runbook.Host

/-- A directive of a format. -/
structure Directive where
  flags : List Char
  /-- The least number of octets; below zero they stand on the left. -/
  width : Int
  precision : Option Nat
  conversion : Char
  deriving Repr

namespace Directive

/-- The largest width, and the greatest number of digits, that a directive keeps to. -/
def sizeLimit : Nat := 1000000

/-- The greatest number of digits of a real number that a directive keeps to. No number of a binary format
has more digits that are not zero after its point. -/
def digitLimit : Nat := 17000

/-- A number of a directive that keeps to the limit. -/
def limited (value : Int) : Int := max (-sizeLimit) (min value sizeLimit)

/-- A flag is set. -/
def has (directive : Directive) (flag : Char) : Bool := directive.flags.contains flag

/-- The text stands on the left of its column. -/
def isLeft (directive : Directive) : Bool := directive.has '-' || directive.width < 0

/-- Fills a text to the width. -/
def pad (directive : Directive) (text : List Char) : List Char :=
  let fill := List.replicate (directive.width.natAbs - text.length) ' '
  if directive.isLeft then text ++ fill else fill ++ text

/-- Fills a number to the width, with zeros after what stands before its digits if that is asked for. -/
def padNumber (directive : Directive) (zeros : Bool) (start digits : List Char) : List Char :=
  if directive.has '0' && zeros && !directive.isLeft then
    start ++ List.replicate (directive.width.natAbs - start.length - digits.length) '0' ++ digits
  else directive.pad (start ++ digits)

/-- A text, of which the precision says how much counts. -/
def text (directive : Directive) (argument : List Char) : List Char :=
  directive.pad (match directive.precision with
    | some count => argument.take count
    | none => argument)

/-- One character. -/
def character (directive : Directive) (c : Char) : List Char := directive.pad [c]

/-- The sign before a number. -/
def sign (directive : Directive) (negative : Bool) : List Char :=
  if negative then ['-']
  else if directive.has '+' then ['+']
  else if directive.has ' ' then [' ']
  else []

/-- At least so many digits as the precision says, and none for a zero without precision. -/
def digits (directive : Directive) (base value : Nat) : List Char :=
  if value = 0 && directive.precision = some 0 then []
  else
    let digits := Nat.toDigits base value
    List.replicate (directive.precision.getD 1 - digits.length) '0' ++ digits

/-- A whole number with its sign. -/
def signed (directive : Directive) (value : Int) : List Char :=
  directive.padNumber directive.precision.isNone (directive.sign (decide (value < 0)))
    (directive.digits 10 value.natAbs)

/-- A whole number without a sign, in the base of the conversion. -/
def unsigned (directive : Directive) (value : Nat) : List Char :=
  let zeros := directive.precision.isNone
  match directive.conversion with
  | 'o' =>
    let digits := directive.digits 8 value
    let isMarked := directive.has '#' && digits.head? != some '0'
    directive.padNumber zeros [] (if isMarked then '0' :: digits else digits)
  | 'x' =>
    directive.padNumber zeros (if directive.has '#' && value != 0 then ['0', 'x'] else [])
      (directive.digits 16 value)
  | 'X' =>
    directive.padNumber zeros (if directive.has '#' && value != 0 then ['0', 'X'] else [])
      ((directive.digits 16 value).map Char.toUpper)
  | _ => directive.padNumber zeros [] (directive.digits 10 value)

/-- A real number of a binary format. -/
def real (directive : Directive) (precision : Precision) (value : Real) : List Char :=
  let start := directive.sign value.isNegative
  let keep := directive.has '#'
  let count := min (directive.precision.getD 6) digitLimit
  let text := match value with
    | .nan _ => directive.pad (start ++ "nan".toList)
    | .infinite _ => directive.pad (start ++ "inf".toList)
    | .finite _ mantissa exponent =>
      match directive.conversion.toLower with
      | 'f' => directive.padNumber true start (Real.fixed count keep mantissa exponent)
      | 'e' => directive.padNumber true start (Real.scientific count keep mantissa exponent)
      | 'g' => directive.padNumber true start (Real.general count keep mantissa exponent)
      | _ => directive.padNumber true (start ++ ['0', 'x'])
          (Real.hexadecimal precision (directive.precision.map (min · digitLimit)) keep mantissa exponent)
  if directive.conversion.isUpper then text.map Char.toUpper else text

end Directive

end Runbook.Host
