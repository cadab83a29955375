import Runbook.Host.Glyph

/-!
# Names in messages

How programs write the names of files and the texts of arguments, so that it shows where they begin and
end and what is in them.

* `Quotation.ifNeeded` and `Quotation.always` write a name as a shell can read it.
* `Quotation.marked` puts it between quotation marks, `Quotation.doubled` between double quotes.
* `Quotation.escaped` has sequences after a backslash in place of what cannot be printed.
-/

namespace Runbook.Host.Quotation

/-! ## Sequences -/

/-- The letter of a control character. -/
def controlLetter? : Char → Option Char
  | '\x07' => some 'a'
  | '\x08' => some 'b'
  | '\x0c' => some 'f'
  | '\n' => some 'n'
  | '\r' => some 'r'
  | '\t' => some 't'
  | '\x0b' => some 'v'
  | _ => none

/-- An octet as a backslash and three octal digits. -/
def octalText (c : Char) : List Char :=
  let digits := Nat.toDigits 8 c.toNat
  '\\' :: List.replicate (3 - digits.length) '0' ++ digits

/-- A glyph that cannot be printed, as sequences. -/
def sequences (glyph : Glyph) : List Char :=
  match glyph.char.bind controlLetter? with
  | some letter => ['\\', letter]
  | none => glyph.octets.flatMap octalText

/-! ## For a shell -/

/-- Characters with a meaning for a shell wherever they stand. -/
def special : List Char :=
  [' ', '?', '\\', '\'', '!', '"', '$', '&', '(', ')', '*', ';', '<', '=', '>', '[', '^', '\x60', '|']

/-- A shell would not take the name for what it is. -/
def needsQuotes (glyphs : List Glyph) : Bool :=
  match glyphs.map (·.octets) with
  | [] | [['\x7b']] | [['\x7d']] => true
  | first :: _ =>
    first == ['#'] || first == ['~'] ||
      glyphs.any fun glyph => !glyph.isGraphic || glyph.char.any special.contains

/-- The characters that mean nothing in double quotes. -/
def fitsDoubleQuotes (glyph : Glyph) : Bool :=
  match glyph.char with
  | some c => glyph.isGraphic &&
      (c == ' ' || c == '\'' || !special.contains c)
  | none => false

/-- Glyphs between single quotes; what cannot be printed stands apart as sequences. -/
def singles : Bool → List Glyph → List Char
  | _, [] => []
  | apart, glyph :: rest =>
    if !glyph.isGraphic then
      (if apart then [] else ['\'', '$', '\'']) ++ sequences glyph ++ singles true rest
    else if glyph.char = some '\'' then ['\'', '\\', '\'', '\''] ++ singles false rest
    else (if apart then ['\'', '\''] else []) ++ glyph.octets ++ singles false rest

/-- A name as a shell can read it, always between quotes. -/
def always (wide : Bool) (name : String) : String :=
  let glyphs := Glyph.ofText wide name
  if glyphs.any (·.char == some '\'') && glyphs.all fitsDoubleQuotes then "\"" ++ name ++ "\""
  else "'" ++ String.ofList (singles false glyphs) ++ "'"

/-- A name as a shell can read it. -/
def ifNeeded (wide : Bool) (name : String) : String :=
  if needsQuotes (Glyph.ofText wide name) then always wide name else name

/-- A name with a colon may be taken for two. -/
def withColon (wide : Bool) (name : String) : String :=
  if name.toList.contains ':' then always wide name else ifNeeded wide name

/-! ## For a reader -/

/-- Glyphs with sequences for what cannot be printed, for backslashes, and for some others. -/
def withSequences (others : List (List Char)) (glyphs : List Glyph) : List Char :=
  glyphs.flatMap fun glyph =>
    if !glyph.isGraphic then sequences glyph
    else if glyph.char = some '\\' || others.contains glyph.octets then '\\' :: glyph.octets
    else glyph.octets

/-- The quotation marks of a character set, as octets. -/
def marks (wide : Bool) : String × String :=
  if wide then (octets "\u2018", octets "\u2019") else ("'", "'")

/-- A text between quotation marks. -/
def marked (wide : Bool) (text : String) : String :=
  let (opening, closing) := marks wide
  opening ++ String.ofList (withSequences [closing.toList] (Glyph.ofText wide text)) ++ closing

/-- A text between double quotes. -/
def doubled (wide : Bool) (text : String) : String :=
  "\"" ++ String.ofList (withSequences [['"']] (Glyph.ofText wide text)) ++ "\""

/-- A text with sequences for what cannot be printed, and for some characters. -/
def escaped (wide : Bool) (others : List Char) (text : String) : String :=
  String.ofList (withSequences (others.map ([·])) (Glyph.ofText wide text))

/-- A text between quotes of a shell, as it is. -/
def plainQuotes (text : String) : String :=
  if text.toList.contains '\'' && !text.toList.any fun c => c != ' ' && c != '\'' && special.contains c
  then "\"" ++ text ++ "\""
  else "'" ++ text.replace "'" "'\\''" ++ "'"

/-- A glyph that cannot be printed, as a question mark. -/
def masked (wide : Bool) (text : String) : String :=
  String.ofList ((Glyph.ofText wide text).flatMap fun glyph =>
    if glyph.isGraphic then glyph.octets else ['?'])

end Runbook.Host.Quotation
