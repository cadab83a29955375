import Runbook.Host.Utility.Numeral

/-!
# Escapes

Sequences after a backslash in the arguments of the programs that print text. Letters stand for control
characters and octal digits for an octet; what is no sequence stays as it is.
-/

namespace Runbook.Host.Escape

/-- The octet with a number, as far as it goes. -/
def octet (n : Nat) : Char := Char.ofNat (n % 256)

/-- The control character of a letter. -/
def control? : Char → Option Char
  | 'a' => some '\x07'
  | 'b' => some '\x08'
  | 'e' => some '\x1b'
  | 'f' => some '\x0c'
  | 'n' => some '\n'
  | 'r' => some '\r'
  | 't' => some '\t'
  | 'v' => some '\x0b'
  | '\\' => some '\\'
  | _ => none

/-- At most three octal digits as an octet, if there is one, and the rest. -/
def octal? (text : List Char) : Option (Char × List Char) :=
  if text.head?.any fun c => (Numeral.digit? 8 c).isSome then
    let (value, rest) := Numeral.digits 8 3 0 text
    some (octet value, rest)
  else none

/-- Octal digits that may come after a zero of their own, as an octet, and the rest. -/
def octalAfterZero? (text : List Char) : Option (Char × List Char) :=
  match text with
  | '0' :: rest => (octal? rest).or (some ('\x00', rest))
  | text => octal? text

/-- The text with its sequences replaced, and whether one of them ends all output. `sequence` gives what
the text after a backslash stands for, and the rest. The first argument bounds the number of steps. -/
def replace (sequence : List Char → Option (List Char × List Char)) :
    Nat → List Char → List Char → List Char × Bool
  | 0, _, done => (done.reverse, false)
  | _ + 1, [], done => (done.reverse, false)
  | steps + 1, '\\' :: rest, done =>
    match rest, sequence rest with
    | 'c' :: _, _ => (done.reverse, true)
    | _, some (text, rest) => replace sequence steps rest (text.reverse ++ done)
    | _, none => replace sequence steps rest ('\\' :: done)
  | steps + 1, c :: rest, done => replace sequence steps rest (c :: done)

/-- The text with its sequences replaced, and whether one of them ends all output. -/
def expand (sequence : List Char → Option (List Char × List Char)) (text : List Char) :
    List Char × Bool :=
  replace sequence (text.length + 1) text []

/-- A letter for a control character, or octal digits. -/
def plain? (text : List Char) : Option (List Char × List Char) :=
  match text with
  | [] => none
  | c :: rest =>
    match control? c with
    | some control => some ([control], rest)
    | none => (octal? text).map fun found => ([found.1], found.2)

/-- A letter for a control character, or octal digits, before which a zero may stand. -/
def withZero? (text : List Char) : Option (List Char × List Char) :=
  match text with
  | [] => none
  | c :: rest =>
    match control? c with
    | some control => some ([control], rest)
    | none => (octalAfterZero? text).map fun found => ([found.1], found.2)

end Runbook.Host.Escape
