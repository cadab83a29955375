/-!
# Numerals

Whole numbers as they stand at the start of a text: blanks, a sign, and digits of a base. What the
digits come to is not bounded; `Numeral.signed` and `Numeral.unsigned` keep to 64 bits.
-/

namespace Runbook.Host

/-- A blank before or after a number. -/
def isSpace (c : Char) : Bool := c == ' ' || ('\t' ≤ c && c ≤ '\r')

namespace Numeral

/-- The value of a digit in a base up to sixteen. -/
def digit? (base : Nat) (c : Char) : Option Nat :=
  let value := if '0' ≤ c ∧ c ≤ '9' then some (c.toNat - '0'.toNat)
    else if 'a' ≤ c ∧ c ≤ 'f' then some (c.toNat - 'a'.toNat + 10)
    else if 'A' ≤ c ∧ c ≤ 'F' then some (c.toNat - 'A'.toNat + 10)
    else none
  value.filter (· < base)

/-- The number of at most `count` digits, and the rest. -/
def digits (base : Nat) : Nat → Nat → List Char → Nat × List Char
  | 0, value, text => (value, text)
  | _ + 1, value, [] => (value, [])
  | count + 1, value, c :: rest =>
    match digit? base c with
    | some d => digits base count (value * base + d) rest
    | none => (value, c :: rest)

/-- The number at the start of a text in a base, and the rest, if there is a digit. -/
def inBase (base : Nat) (text : List Char) : Option (Nat × List Char) :=
  if text.head?.any fun c => (digit? base c).isSome then some (digits base text.length 0 text) else none

/-- The number at the start of a text, whose base shows from its beginning, and the rest. The letter
before binary digits counts only if it is asked for. -/
def inAnyBase (binaryToo : Bool) (text : List Char) : Option (Nat × List Char) :=
  let short (base : Nat) (rest : List Char) : Option (Nat × List Char) :=
    (inBase base rest).or (some (0, text.tail))
  match text with
  | '0' :: 'x' :: rest | '0' :: 'X' :: rest => short 16 rest
  | '0' :: 'b' :: rest | '0' :: 'B' :: rest => if binaryToo then short 2 rest else inBase 8 text
  | '0' :: _ => inBase 8 text
  | _ => inBase 10 text

/-- Blanks and a sign taken off: whether the sign is a minus, and the rest. -/
def sign (text : List Char) : Bool × List Char :=
  match text.dropWhile isSpace with
  | '-' :: rest => (true, rest)
  | '+' :: rest => (false, rest)
  | rest => (false, rest)

/-- How the digits of a number are to be read. -/
inductive Style where
  | decimal
  | anyBase (binaryToo : Bool)

/-- A number at the start of a text, and the rest. -/
def read (style : Style) (text : List Char) : Option (Int × List Char) :=
  let (negative, digits) := sign text
  let found := match style with
    | .decimal => inBase 10 digits
    | .anyBase binaryToo => inAnyBase binaryToo digits
  found.map fun found => (if negative then -(found.1 : Int) else (found.1 : Int), found.2)

/-- The largest signed number of 64 bits. -/
def largest : Int := Nat.pow 2 63 - 1

/-- The signed number of 64 bits that is nearest, and whether it is another one. -/
def signed (value : Int) : Int × Bool :=
  if largest < value then (largest, true)
  else if value < -largest - 1 then (-largest - 1, true)
  else (value, false)

/-- A value as an unsigned number of 64 bits; the largest one if it does not fit, and whether it does
not. -/
def unsigned (value : Int) : Nat × Bool :=
  if (Nat.pow 2 64 : Nat) ≤ value.natAbs then (Nat.pow 2 64 - 1, true)
  else ((value % (Nat.pow 2 64 : Nat)).toNat, false)

end Numeral

end Runbook.Host
