import Runbook.CommandLine.Setup
import Runbook.Json.Printer

/-!
# Running a block for a command line

* `eager` runs the whole block and then reports the completions; if the run fails none is reported.
* `iterate` reports each completion as soon as it is there.
* `dryRun` only tells what would be launched.

`dialogue` is the one that is asked for, and `runBlock` carries it out with a launcher.

The status is that of the last line that did not end with zero. A signal is reported the way a shell
does, as 128 and its number.
-/

namespace Runbook.CommandLine

/-- What a command comes to: a status, what was written, and the state of the launcher. -/
structure Finished (σ : Type) where
  result : Except Fault Int
  streams : Streams
  state : σ

/-! ## The status -/

/-- The status after one more completion. -/
def track (status : Int) (completion : Completion) : Int :=
  match completion.code? with
  | some code => if code ≠ 0 then code else status
  | none => status

/-- The status as the program reports it. -/
def exitStatus (code : Int) : Int := if code < 0 then 128 - code else code

/-! ## Reports -/

/-- One completion. -/
def report (json : Bool) (completion : Completion) : Streams :=
  if json then .printed (String.ofList (Json.compact completion.toJson) ++ "\n")
  else completion.write

/-- All completions of a run. -/
def reportAll (json : Bool) (completions : List Completion) : Streams :=
  if json then
    .printed (String.ofList (Json.pretty (.array (completions.map Completion.toJson))) ++ "\n")
  else .join (completions.map Completion.write)

/-- What the events of a run print. -/
def printEvents (runner : Runner) (events : List Event) : Streams :=
  .join (events.map runner.print)

/-! ## Modes -/

/-- The failure of the run of a block. -/
def runFault (source : String) (error : Error) : Fault :=
  .during ("Failed to run " ++ source) (.error error)

/-- Runs the block and reports then. -/
def eager (runner : Runner) (json : Bool) (source : String) (block : Block) :
    Dialogue Streams (Except Fault Int) :=
  ((runner.dialogue block).retell runner.print).bind fun
    | .error error => .done (.error (runFault source error))
    | .ok completions =>
      .tell (reportAll json completions) (.done (.ok (exitStatus (completions.foldl track 0))))

/-- Takes turns and reports what they give, up to the first error; the status behind all of them. -/
def reportTurns (runner : Runner) (json : Bool) (status : Int) (progress : Progress) :
    Dialogue Streams (Except Error Int) :=
  ((runner.turn progress).retell runner.print).bind fun turn =>
    turn.onward (.done (.ok status)) (fun error => .done (.error error)) fun completion next _hless =>
      .tell (report json completion) (reportTurns runner json (track status completion) next)
termination_by Runner.remaining progress
decreasing_by exact _hless

/-- Runs the block and reports on the way. -/
def iterate (runner : Runner) (json : Bool) (source : String) (block : Block) :
    Dialogue Streams (Except Fault Int) :=
  match runner.opens block with
  | .error error => .done (.error (.bare error))
  | .ok progress =>
    (reportTurns runner json 0 progress).map fun
      | .ok status => .ok (exitStatus status)
      | .error error => .error (runFault source error)

/-- Tells what the block would launch. -/
def dryRun {σ : Type} (runner : Runner) (source : String) (block : Block) (state : σ) : Finished σ :=
  match runner.plan block with
  | .error error => ⟨.error (.during ("Failed to parse " ++ source) (.error error)), .silent, state⟩
  | .ok planned => ⟨.ok 0, .printed (String.join (planned.map Planned.toText)), state⟩

/-- What is finished without any launch. -/
def Finished.dialogue {σ : Type} (finished : Finished σ) : Dialogue Streams (Except Fault Int) :=
  .tell finished.streams (.done finished.result)

/-- What the settings ask for. -/
def dialogue (runner : Runner) (settings : Settings) (source : String) (block : Block) :
    Dialogue Streams (Except Fault Int) :=
  if settings.dryRun then (dryRun runner source block ()).dialogue
  else if settings.iterate then iterate runner settings.json source block
  else eager runner settings.json source block

end Runbook.CommandLine
