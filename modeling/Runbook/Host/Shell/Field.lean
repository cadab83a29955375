/-!
# Fields

What words become when they are expanded: texts whose characters may be protected from a later meaning,
with the parts of them that are split into fields.

`Chunk.split` splits at separators. Blanks among them do not make empty fields; the character zero stands
between fields that may be empty.
-/

namespace Runbook.Host.Shell

/-- A character of an expanded word, or a place where quotes began or ended. -/
inductive Cell where
  | char (c : Char) (isProtected : Bool)
  | mark
  deriving DecidableEq, Repr

/-- How a part of an expanded word is split. -/
inductive Splitting where
  | never
  /-- At separators. -/
  | fields
  /-- Only between parameters. -/
  | parameters
  deriving DecidableEq, Repr

/-- A part of an expanded word. -/
structure Chunk where
  cells : List Cell
  splitting : Splitting
  deriving Repr

/-- The text of cells. -/
def textOfCells (cells : List Cell) : String :=
  String.ofList (cells.filterMap fun cell =>
    match cell with
    | .char c _ => some c
    | .mark => none)

namespace Chunk

/-- A text that is not split. -/
def plain (text : List Char) (isProtected : Bool) : Chunk := ⟨text.map (.char · isProtected), .never⟩

/-- All cells of some chunks. -/
def cellsOf (chunks : List Chunk) : List Cell := chunks.flatMap (·.cells)

/-- The text of some chunks. -/
def textOf (chunks : List Chunk) : String := textOfCells (cellsOf chunks)

/-- The separators that do not make empty fields. -/
def isBlank (c : Char) : Bool := c == ' ' || c == '\t' || c == '\n' || c == '\x00'

/-- What is known while chunks are split. -/
structure Cutting where
  /-- The fields, the last one first. -/
  fields : List (List Cell) := []
  /-- The cells of the field that was begun, the last one first. -/
  current : List Cell := []
  /-- How many more fields there may be, if that is bounded. -/
  left : Option Nat
  /-- The last field without the separators at its end, while there are only such. -/
  trimmed : Option (List Cell) := none
  /-- The last separator was a blank, in the same chunk. -/
  afterBlank : Bool := false
  /-- Blanks are skipped: a separator has just ended a field, and whether one more may come. -/
  isSkipping : Bool := false

namespace Cutting

/-- Adds a cell to the field that was begun. -/
def keep (cutting : Cutting) (cell : Cell) : Cutting :=
  { cutting with current := cell :: cutting.current, isSkipping := false }

/-- Ends a field. -/
def cut (cutting : Cutting) : Cutting :=
  { cutting with fields := cutting.current.reverse :: cutting.fields, current := [] }

/-- A cell of the last field, which is not split any more. -/
def last (cutting : Cutting) (cell : Cell) (isSeparator isBlank : Bool) : Cutting :=
  if isBlank then
    { cutting with trimmed := cutting.trimmed.or (some cutting.current) }.keep cell
  else
    let trimmed := if isSeparator && cutting.afterBlank then cutting.trimmed else none
    { cutting with trimmed, afterBlank := false }.keep cell

/-- A cell that may be a separator; `counts` says that blanks count as such. -/
def next (separators : List Char) (counts onlyZero : Bool) (cutting : Cutting) (cell : Cell) :
    Cutting :=
  let c? := match cell with
    | .char c _ => some c
    | .mark => none
  let isSeparator := c?.any fun c => c == '\x00' || (!onlyZero && separators.contains c)
  let isBlank := isSeparator && c?.any isBlank
  if cutting.left = some 0 then cutting.last cell isSeparator isBlank
  else if cutting.isSkipping && isBlank then cutting
  else if cutting.isSkipping && isSeparator && cutting.afterBlank then
    { cutting with afterBlank := false }
  else if !isSeparator then cutting.keep cell
  else
    let afterBlank := if counts then isBlank else cutting.afterBlank
    let cutting := { cutting with afterBlank }
    if cutting.current.isEmpty && afterBlank then cutting
    else if cutting.left = some 1 then
      { cutting with left := some 0, trimmed := some cutting.current }.keep cell
    else
      { cutting.cut with left := cutting.left.map (· - 1), isSkipping := !onlyZero }

/-- Splits chunks; `afterZero` says that the chunk before was split between parameters. -/
def chunks (separators : List Char) : Bool → List Chunk → Cutting → Cutting × Bool
  | afterZero, [], cutting => (cutting, afterZero)
  | afterZero, chunk :: rest, cutting =>
    let cutting := { cutting with afterBlank := false, isSkipping := false }
    match chunk.splitting with
    | .never =>
      chunks separators afterZero rest (chunk.cells.foldl keep cutting)
    | .fields =>
      chunks separators false rest (chunk.cells.foldl (next separators (!afterZero) false) cutting)
    | .parameters =>
      chunks separators true rest (chunk.cells.foldl (next separators false true) cutting)

end Cutting

/-- Splits chunks at separators, into at most so many fields if that is bounded. -/
def split (separators : String) (bound : Option Nat) (chunks : List Chunk) : List (List Cell) :=
  let (cutting, afterZero) := Cutting.chunks separators.toList false chunks { left := bound }
  let last := (cutting.trimmed.getD cutting.current).reverse
  if last.isEmpty && !afterZero then cutting.fields.reverse else (last :: cutting.fields).reverse

end Chunk

end Runbook.Host.Shell
