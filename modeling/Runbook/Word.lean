import Runbook.Word.Lexer
import Runbook.Word.Quoting

/-!
# Words as texts

The lexer and the quoting of `Runbook.Word` for texts, with what can go wrong.
-/

namespace Runbook.Word

/-- Why a line gives no words, or words no line. -/
inductive Fault where
  /-- A quote or a backslash is left open. -/
  | unbalanced
  /-- A word holds the character zero. -/
  | nul
  deriving DecidableEq, Repr

/-- What a fault is called. -/
def Fault.message : Fault → String
  | unbalanced => "unbalanced quotes or trailing escape"
  | nul => "cannot shell-quote string containing nul byte"

/-- The words of a line. -/
def ofLine (line : String) : Except Fault (List String) :=
  match split? line.toList with
  | some words => .ok (words.map String.ofList)
  | none => .error .unbalanced

/-- The line that a shell reads as these words. -/
def toLine (words : List String) : Except Fault String :=
  match join? (words.map String.toList) with
  | some line => .ok (String.ofList line)
  | none => .error .nul

end Runbook.Word
