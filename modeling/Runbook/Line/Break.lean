/-!
# Physical lines

* `isBreak` holds of the ten characters that end a physical line. A carriage return and a line feed
  after it count as one break.
* `Line.spans` are the byte offsets between which the lines of a text stand. A break at the very end
  adds no line.
* A `Block` is a text, or a list of lines that hold no break.
-/

namespace Runbook

/-- The characters that end a physical line. -/
def isBreak (c : Char) : Bool :=
  let n := c.toNat
  (0xA ≤ n && n ≤ 0xD) || (0x1C ≤ n && n ≤ 0x1E) || n == 0x85 || n == 0x2028 || n == 0x2029

namespace Line

/-- A part of a text, from one byte offset to another. -/
structure Span where
  start : Nat
  stop : Nat
  deriving DecidableEq, Repr

/-- What a span covers. -/
def Span.slice (text : String) (span : Span) : String :=
  String.Pos.Raw.extract text ⟨span.start⟩ ⟨span.stop⟩

/-- The spans of the lines of a text, of which the first begins at `start` and has been read up to
`offset`. The characters are those that are left. -/
def spansFrom (start offset : Nat) : List Char → List Span
  | [] => if start < offset then [⟨start, offset⟩] else []
  | '\r' :: '\n' :: rest => ⟨start, offset⟩ :: spansFrom (offset + 2) (offset + 2) rest
  | c :: rest =>
    let next := offset + c.utf8Size
    if isBreak c then ⟨start, offset⟩ :: spansFrom next next rest else spansFrom start next rest

/-- The spans of the lines of a text. -/
def spans (text : String) : List Span := spansFrom 0 0 text.toList

end Line

/-- What a runner is given. -/
inductive Block where
  /-- One text, to be cut at its breaks. -/
  | text (text : String)
  /-- Lines that are cut already. -/
  | lines (lines : List String)
  deriving DecidableEq, Repr

/-- The text holds a break. -/
def hasBreak (text : String) : Bool := text.toList.any isBreak

namespace Block

/-- The physical lines, in order. -/
def physicalLines : Block → List String
  | text t => (Line.spans t).map (Line.Span.slice t)
  | lines ls => ls

/-- The first of the given lines that holds a break. -/
def broken? : Block → Option String
  | text _ => none
  | lines ls => ls.find? hasBreak

end Block

end Runbook
