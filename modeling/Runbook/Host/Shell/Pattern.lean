import Runbook.Host.Shell.Field

/-!
# Patterns

Patterns for texts and for the names of files: a star for any text, a question mark for any octet, and
brackets for one octet of a set. A backslash takes the meaning from the character after it.

`Pattern.ofCells` is the text of the pattern that an expanded word is, in which characters that were
protected stand after a backslash.
-/

namespace Runbook.Host.Shell

/-- A set of octets between brackets, as one of its members is given. -/
inductive Member where
  | range (first last : Char)
  | property (holds : Char → Bool)

namespace Member

/-- The octet is meant. -/
def fits (c : Char) : Member → Bool
  | range first last => first ≤ c && c ≤ last
  | property holds => holds c

/-- Octets that leave a mark. -/
def isGraph (c : Char) : Bool := '!' ≤ c && c ≤ '~'

/-- The properties of octets that have names. -/
def properties : List (String × (Char → Bool)) := [
  (":alnum:]", Char.isAlphanum), (":alpha:]", Char.isAlpha),
  (":blank:]", fun c => c == ' ' || c == '\t'),
  (":cntrl:]", fun c => c < ' ' || c == '\x7f'),
  (":digit:]", Char.isDigit), (":graph:]", isGraph), (":lower:]", Char.isLower),
  (":print:]", fun c => ' ' ≤ c && c ≤ '~'),
  (":punct:]", fun c => isGraph c && !c.isAlphanum),
  (":space:]", fun c => c == ' ' || ('\t' ≤ c && c ≤ '\r')), (":upper:]", Char.isUpper),
  (":xdigit:]", fun c => c.isDigit || ('a' ≤ c && c ≤ 'f') || ('A' ≤ c && c ≤ 'F'))]

/-- The property at the start of a text, after its bracket. -/
def property? (text : List Char) : Option (Member × List Char) :=
  (properties.find? fun entry => entry.1.toList.isPrefixOf text).map fun entry =>
    (property entry.2, text.drop entry.1.length)

end Member

/-- A part of a pattern. -/
inductive Glob where
  | char (c : Char)
  | any
  | many
  | oneOf (negated : Bool) (members : List Member)

namespace Glob

/-- The members of a set up to its closing bracket, if there is one. The first argument bounds their
number; those so far are reversed. -/
def members : Nat → List Char → List Member → Option (List Member × List Char)
  | 0, _, _ => none
  | _ + 1, [], _ => none
  | steps + 1, c :: rest, found =>
    let goOn (rest : List Char) (found : List Member) : Option (List Member × List Char) :=
      match rest with
      | ']' :: rest => some (found.reverse, rest)
      | rest => members steps rest found
    match if c = '[' then Member.property? rest else none with
    | some (member, rest) => goOn rest (member :: found)
    | none =>
      let (c, rest) := match c, rest with
        | '\\', next :: rest => (next, rest)
        | _, _ => (c, rest)
      match rest with
      | '-' :: ']' :: _ => goOn rest (.range c c :: found)
      | '-' :: '\\' :: last :: rest | '-' :: last :: rest => goOn rest (.range c last :: found)
      | rest => goOn rest (.range c c :: found)

/-- The parts of a pattern. The first argument bounds their number. -/
def parse : Nat → List Char → List Glob
  | 0, _ => []
  | _ + 1, [] => []
  | steps + 1, c :: rest =>
    match c, rest with
    | '*', rest => many :: parse steps rest
    | '?', rest => any :: parse steps rest
    | '\\', next :: rest => char next :: parse steps rest
    | '[', rest =>
      let (negated, inside) := match rest with
        | '!' :: inside => (true, inside)
        | inside => (false, inside)
      match members (inside.length + 1) inside [] with
      | some (members, rest) => oneOf negated members :: parse steps rest
      | none => char '[' :: parse steps rest
    | c, rest => char c :: parse steps rest

/-- The parts of a pattern. -/
def ofText (text : List Char) : List Glob := parse (text.length + 1) text

/-- The pattern fits a text. -/
def fits : List Glob → List Char → Bool
  | [], text => text.isEmpty
  | many :: rest, text => fitsAfter rest text
  | _ :: _, [] => false
  | char c :: rest, d :: text => c == d && fits rest text
  | any :: rest, _ :: text => fits rest text
  | oneOf negated members :: rest, c :: text =>
    members.any (·.fits c) != negated && fits rest text
where
  /-- The pattern fits some end of a text. -/
  fitsAfter (rest : List Glob) : List Char → Bool
    | [] => fits rest []
    | c :: text => fits rest (c :: text) || fitsAfter rest text

end Glob

namespace Pattern

/-- The pattern that cells are. A backslash that is not protected takes the meaning of what follows. -/
def ofCells : Bool → List Cell → List Char
  | _, [] => []
  | _, .mark :: rest => ofCells true rest
  | _, .char '\\' false :: rest => '\\' :: ofCells false rest
  | mayEscape, .char c true :: rest =>
    if mayEscape then '\\' :: c :: ofCells true rest else c :: ofCells true rest
  | _, .char c false :: rest => c :: ofCells true rest

/-- The first of texts that are kept apart by the character zero. -/
def firstText (text : List Char) : List Char := text.takeWhile (· != '\x00')

/-- A text without what a pattern fits at its start. Of texts that are kept apart, the pattern has to fit
the first one. -/
def cutStart (longest : Bool) (pattern : List Glob) (text : List Char) : List Char :=
  let lengths := List.range (text.length + 1)
  let lengths := if longest then lengths.reverse else lengths
  match lengths.find? fun n => Glob.fits pattern (firstText (text.take n)) with
  | some n => text.drop n
  | none => text

/-- A text without what a pattern fits at its end. Of texts that are kept apart, the pattern has to fit the
end of one, and those after it go with it; the longest end is looked for in the first one only. -/
def cutEnd (longest : Bool) (pattern : List Glob) (text : List Char) : List Char :=
  let lengths :=
    if longest then List.range ((firstText text).length + 1)
    else (List.range (text.length + 1)).reverse
  match lengths.find? fun n => Glob.fits pattern (firstText (text.drop n)) with
  | some n => text.take n
  | none => text

end Pattern

end Runbook.Host.Shell
