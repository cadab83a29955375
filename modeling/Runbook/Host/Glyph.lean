import Runbook.Host.Octets
import Runbook.Text.Blank
import Runbook.Text.Unprintable

/-!
# Glyphs

Octets as the characters that a program sees in them. In a wide character set several octets may be one
character; octets that are none stand for themselves.
-/

namespace Runbook.Host

/-- Octets that are seen as one, and the character that they are, if they are one. -/
structure Glyph where
  octets : List Char
  char : Option Char
  deriving DecidableEq, Repr

namespace Glyph

/-- The glyph at the start of octets, and the octets after it. -/
def next (wide : Bool) (first : Char) (rest : List Char) : Glyph × List Char :=
  if first.toNat < 0x80 then (⟨[first], some first⟩, rest)
  else if wide then
    match Utf8.sequence (Octets.byte first) ((rest.take 3).map Octets.byte) with
    | .char c length => (⟨first :: rest.take (length - 1), some c⟩, rest.drop (length - 1))
    | _ => (⟨[first], none⟩, rest)
  else (⟨[first], none⟩, rest)

/-- The glyphs of octets. The first argument bounds their number. -/
def split (wide : Bool) : Nat → List Char → List Glyph
  | 0, _ => []
  | _ + 1, [] => []
  | steps + 1, first :: rest =>
    let (glyph, rest) := next wide first rest
    glyph :: split wide steps rest

/-- The glyphs of a text. -/
def ofText (wide : Bool) (text : String) : List Glyph := split wide (text.length + 1) text.toList

/-- Characters that have a form although it cannot be seen, or is that of somebody else. -/
def formatRanges : List (Nat × Nat) := [
  (0xA0, 0xA0), (0xAD, 0xAD), (0x115F, 0x1160), (0x600, 0x605), (0x61C, 0x61C), (0x6DD, 0x6DD),
  (0x70F, 0x70F), (0x890, 0x891), (0x8E2, 0x8E2), (0x1680, 0x1680), (0x180E, 0x180E),
  (0x2000, 0x200F), (0x202A, 0x202F), (0x205F, 0x2064), (0x2066, 0x206F), (0x3000, 0x3000),
  (0x3164, 0x3164), (0xFEFF, 0xFEFF), (0xFFA0, 0xFFA0), (0xFFF9, 0xFFFB), (0xE000, 0xF8FF),
  (0x110BD, 0x110BD), (0x110CD, 0x110CD), (0x13430, 0x1343F), (0x1BCA0, 0x1BCA3),
  (0x1D173, 0x1D17A), (0xE0001, 0xE0001), (0xE0020, 0xE007F), (0xF0000, 0xFFFFD),
  (0x100000, 0x10FFFD)]

/-- The character can be printed. -/
def isPrinted (c : Char) : Bool :=
  !Text.isUnprintable c || Text.inRanges formatRanges c.toNat

/-- The glyph can be printed. -/
def isGraphic (glyph : Glyph) : Bool := glyph.char.any isPrinted

/-- The characters that are as wide as two. -/
def doubleRanges : List (Nat × Nat) := [
  (0x1100, 0x115F), (0x231A, 0x231B), (0x2329, 0x232A), (0x23E9, 0x23EC), (0x23F0, 0x23F0),
  (0x23F3, 0x23F3), (0x25FD, 0x25FE), (0x2614, 0x2615), (0x2648, 0x2653), (0x267F, 0x267F),
  (0x2693, 0x2693), (0x26A1, 0x26A1), (0x26AA, 0x26AB), (0x26BD, 0x26BE), (0x26C4, 0x26C5),
  (0x26CE, 0x26CE), (0x26D4, 0x26D4), (0x26EA, 0x26EA), (0x26F2, 0x26F3), (0x26F5, 0x26F5),
  (0x26FA, 0x26FA), (0x26FD, 0x26FD), (0x2705, 0x2705), (0x270A, 0x270B), (0x2728, 0x2728),
  (0x274C, 0x274C), (0x274E, 0x274E), (0x2753, 0x2755), (0x2757, 0x2757), (0x2795, 0x2797),
  (0x27B0, 0x27B0), (0x27BF, 0x27BF), (0x2B1B, 0x2B1C), (0x2B50, 0x2B50), (0x2B55, 0x2B55),
  (0x2E80, 0x303E), (0x3041, 0x33FF), (0x3400, 0x4DBF), (0x4E00, 0xA4C6), (0xA960, 0xA97C),
  (0xAC00, 0xD7A3), (0xF900, 0xFAFF), (0xFE10, 0xFE19), (0xFE30, 0xFE6B), (0xFF01, 0xFF60),
  (0xFFE0, 0xFFE6), (0x16FE0, 0x16FE4), (0x17000, 0x18CD5), (0x1AFF0, 0x1B2FB), (0x1F004, 0x1F004),
  (0x1F0CF, 0x1F0CF), (0x1F18E, 0x1F18E), (0x1F191, 0x1F19A), (0x1F200, 0x1F320),
  (0x1F32D, 0x1F335), (0x1F337, 0x1F37C), (0x1F37E, 0x1F393), (0x1F3A0, 0x1F3CA),
  (0x1F3CF, 0x1F3D3), (0x1F3E0, 0x1F3F0), (0x1F3F4, 0x1F3F4), (0x1F3F8, 0x1F43E),
  (0x1F440, 0x1F440), (0x1F442, 0x1F4FC), (0x1F4FF, 0x1F53D), (0x1F54B, 0x1F54E),
  (0x1F550, 0x1F567), (0x1F57A, 0x1F57A), (0x1F595, 0x1F596), (0x1F5A4, 0x1F5A4),
  (0x1F5FB, 0x1F64F), (0x1F680, 0x1F6C5), (0x1F6CC, 0x1F6CC), (0x1F6D0, 0x1F6D2),
  (0x1F6D5, 0x1F6D7), (0x1F6DC, 0x1F6DF), (0x1F6EB, 0x1F6EC), (0x1F6F4, 0x1F6FC),
  (0x1F7E0, 0x1F7EB), (0x1F7F0, 0x1F7F0), (0x1F90C, 0x1F93A), (0x1F93C, 0x1F945),
  (0x1F947, 0x1F9FF), (0x1FA70, 0x1FAF8), (0x20000, 0x3FFFD)]

/-- The number of columns of a glyph that can be printed. -/
def columns (glyph : Glyph) : Nat :=
  match glyph.char with
  | none => 0
  | some c =>
    if Text.isExtender c || Text.inRanges [(0x200B, 0x200F), (0x2028, 0x202E), (0x2060, 0x206F)] c.toNat
    then 0
    else if Text.inRanges doubleRanges c.toNat then 2
    else 1

/-- The character is a blank that keeps words together. -/
def isFirmSpace (c : Char) : Bool := ['\u00a0', '\u2007', '\u202f', '\u2060'].contains c

/-- The character is a blank. -/
def isBlank (c : Char) : Bool := Text.isBlank c && !isFirmSpace c && c != '\u0085'

end Glyph

end Runbook.Host
