import Runbook.Error
import Runbook.Line.Break
import Runbook.Text.Blank

/-!
# Logical lines

A `Splitter` puts physical lines together to logical lines, one for each pull.

* A physical line that ends in a backslash goes on in the next one; nothing is put between the two.
  `keepsHashes` tells whether such a line may go on: a comment would hide its backslash.
* A logical line is trimmed; a blank one is passed over.
* A pull also tells the physical lines that it read. After an error and at the end nothing more is
  read.
-/

namespace Runbook

namespace Line

/-- A physical line without the backslash at its end. -/
def fragment? (line : String) : Option String :=
  if line.toList.getLast? = some '\\' then some (String.ofList line.toList.dropLast) else none

/-- The number of hashes in a text. -/
def hashes (text : List Char) : Nat := text.count '#'

/-- The words of a fragment hold all its hashes, so that none of them opens a comment. -/
def keepsHashes (fragment : String) : Bool :=
  match Word.split? fragment.toList with
  | some words => hashes words.flatten == hashes fragment.toList
  | none => false

/-- The logical line that is left of a text, unless it is blank. -/
def logical? (text : String) : Option String :=
  let trimmed := String.ofList (Text.trim text.toList)
  if trimmed.isEmpty then none else some trimmed

end Line

/-- The state between two pulls: the physical lines that are left, what was kept of lines that go on,
and whether it is over. -/
structure Splitter where
  lines : List String
  buffer : String
  done : Bool
  deriving DecidableEq, Repr

/-- What comes of one pull. -/
structure Splitter.Pull where
  /-- The physical lines that were read. -/
  saw : List String
  /-- A logical line or an error, or nothing at the end. -/
  item : Option (Except Error String)
  next : Splitter
  deriving Repr

namespace Splitter

/-- Before the first physical line. -/
def ofLines (lines : List String) : Splitter := ⟨lines, "", false⟩

/-- The splitter of a block, whose lines must be cut properly. -/
def ofBlock (block : Block) : Except Error Splitter :=
  match block.broken? with
  | some line => .error (.misuse (.brokenLine line))
  | none => .ok (ofLines block.physicalLines)

/-- The pull that read one more line before. -/
def Pull.sawFirst (line : String) (pull : Pull) : Pull := { pull with saw := line :: pull.saw }

/-- Reads lines until a logical line is complete. -/
def advance (buffer : String) : List String → Pull
  | [] => ⟨[], (Line.logical? buffer).map .ok, ⟨[], "", true⟩⟩
  | line :: lines =>
    match Line.fragment? line with
    | some fragment =>
      if Line.keepsHashes fragment then (advance (buffer ++ fragment) lines).sawFirst line
      else ⟨[line], some (.error (.hiddenContinuation line)), ⟨lines, buffer, true⟩⟩
    | none =>
      match Line.logical? (buffer ++ line) with
      | some logical => ⟨[line], some (.ok logical), ⟨lines, "", false⟩⟩
      | none => (advance "" lines).sawFirst line

/-- Pulls once. -/
def pull (splitter : Splitter) : Pull :=
  if splitter.done then ⟨[], none, splitter⟩ else advance splitter.buffer splitter.lines

/-! ## Pulls come to an end -/

/-- A bound for the number of pulls that still give something. -/
def remaining (splitter : Splitter) : Nat := if splitter.done then 0 else splitter.lines.length + 1

theorem advance_remaining_le (buffer : String) (lines : List String) :
    (advance buffer lines).next.remaining ≤ lines.length := by
  induction lines generalizing buffer with
  | nil => simp [advance, remaining]
  | cons line lines ih =>
    unfold advance
    split
    · split
      · exact Nat.le_succ_of_le (ih _)
      · simp [remaining]
    · split
      · simp [remaining]
      · exact Nat.le_succ_of_le (ih _)

theorem pull_remaining_lt {splitter : Splitter} {item : Except Error String}
    (h : splitter.pull.item = some item) : splitter.pull.next.remaining < splitter.remaining := by
  unfold pull at h ⊢
  by_cases hdone : splitter.done
  · rw [if_pos hdone] at h
    cases h
  · rw [if_neg hdone, remaining, remaining, if_neg hdone]
    exact Nat.lt_succ_of_le (advance_remaining_le _ _)

/-- All pulls up to the one that gives nothing, that one included. -/
def pulls (splitter : Splitter) : List Pull :=
  match _h : splitter.pull.item with
  | some _ => splitter.pull :: pulls splitter.pull.next
  | none => [splitter.pull]
termination_by splitter.remaining
decreasing_by exact pull_remaining_lt _h

/-- The logical lines and the error that all pulls give. -/
def items (splitter : Splitter) : List (Except Error String) := splitter.pulls.filterMap (·.item)

end Splitter

/-- All items, up to the first error. -/
def collect {ε α : Type} : List (Except ε α) → Except ε (List α)
  | [] => .ok []
  | .error e :: _ => .error e
  | .ok a :: rest => (a :: ·) <$> collect rest

/-- The logical lines of a block. -/
def Block.logicalLines (block : Block) : Except Error (List String) := do
  collect (← Splitter.ofBlock block).items

end Runbook
