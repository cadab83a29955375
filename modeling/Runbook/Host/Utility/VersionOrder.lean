import Runbook.Host.Utility.Numeral

/-!
# The order of versions

Names with numbers in them, in the order of the numbers. A name is compared piece by piece: what is no
digit character by character, with a tilde before everything and letters before other characters, and
digits as numbers. Endings such as those after a last point count only if the rest is the same.
-/

namespace Runbook.Host.VersionOrder

/-- The rank of a character that is no digit; the end of a name comes after a tilde. -/
def rank : Option Char → Int
  | none => -1
  | some '~' => -2
  | some c => if c.isDigit then 0 else if c.isAlpha then c.toNat else c.toNat + 256

/-- Compares two texts character by character up to digits in both of them, or gives what is left. -/
def compareSigns : List Char → List Char → Except Ordering (List Char × List Char)
  | [], [] => .ok ([], [])
  | a :: as, [] =>
    if a.isDigit then .ok (a :: as, [])
    else .error (compare (rank (some a)) (rank none))
  | [], b :: bs =>
    if b.isDigit then .ok ([], b :: bs)
    else .error (compare (rank none) (rank (some b)))
  | a :: as, b :: bs =>
    if a.isDigit && b.isDigit then .ok (a :: as, b :: bs)
    else
      match compare (rank (some a)) (rank (some b)) with
      | .eq => compareSigns as bs
      | order => .error order

/-- The digits at the start of a text without zeros before them, and the rest. -/
def digits (text : List Char) : List Char × List Char :=
  let text := text.dropWhile (· == '0')
  (text.takeWhile Char.isDigit, text.dropWhile Char.isDigit)

/-- Compares numbers by their digits. -/
def compareDigits (a b : List Char) : Ordering :=
  (compare a.length b.length).then (compare (String.ofList a) (String.ofList b))

/-- Compares two texts. The first argument bounds the number of pieces. -/
def comparePieces : Nat → List Char → List Char → Ordering
  | 0, _, _ => .eq
  | _ + 1, [], [] => .eq
  | steps + 1, a, b =>
    match compareSigns a b with
    | .error order => order
    | .ok (a, b) =>
      let (m, a) := digits a
      let (n, b) := digits b
      (compareDigits m n).then (comparePieces steps a b)

/-- A text is nothing but endings: points, each followed by a letter and by letters and digits. -/
def isEnding : Nat → List Char → Bool
  | 0, _ => false
  | _ + 1, [] => true
  | steps + 1, '.' :: c :: rest =>
    (c.isAlpha || c == '~') && isEnding steps (rest.dropWhile fun c => c.isAlphanum || c == '~')
  | _ + 1, _ => false

/-- A name without its endings; at least one character is left. The first argument bounds the number of
characters. -/
def stem : Nat → List Char → List Char
  | 0, name => name
  | _ + 1, [] => []
  | steps + 1, c :: rest => if isEnding (steps + 2) rest then [c] else c :: stem steps rest

/-- The class of a name: nothing, a point, two points, a name that starts with a point, or any other. -/
def classOf : List Char → Nat
  | [] => 0
  | ['.'] => 1
  | ['.', '.'] => 2
  | '.' :: _ => 3
  | _ => 4

/-- Compares two names. -/
def compareNames (a b : String) : Ordering :=
  let a := a.toList
  let b := b.toList
  let steps := a.length + b.length + 1
  (compare (classOf a) (classOf b)).then <|
    if classOf a < 3 then .eq
    else (comparePieces steps (stem a.length a) (stem b.length b)).then (comparePieces steps a b)

end Runbook.Host.VersionOrder
