import Runbook.Launch.Validity
import Runbook.Line.Splitter
import Runbook.Run.Dialogue
import Runbook.Run.Invoke
import Runbook.Run.Policy

/-!
# Runners

A runner is a primitive with its settings. It runs a block line by line.

* `Runner.plan` gives the invocations of all lines and launches nothing.
* `Runner.opens` makes a `Progress`, unless the request makes no sense; nothing happens yet.
* `Runner.turn` goes on until one line is complete, the run fails or the block is at its end. Lines that
  are only comments, and failures that the policy passes over, are left behind on the way.
* `Runner.dialogue` takes turns until the end or the first error and collects the completions.
* `Runner.pull` is a turn with a launcher, and `Runner.execute` the whole dialogue.

All that happens on the way is told as `Event`s, in order.
-/

namespace Runbook

/-- A primitive with its settings. -/
structure Runner where
  primitive : Primitive
  echo : Echo := .disabled
  onFailure : OnFailure := .propagate
  encoding : Encoding := .utf8
  options : Options := {}
  deriving DecidableEq, Repr

/-- What happens in a run. -/
inductive Event where
  /-- A physical line was read and echoed. -/
  | echoed (line : String)
  /-- A process was launched; what it wrote to the streams of the runner. -/
  | launched (request : Request) (spilled : Streams)
  /-- The launch for a logical line failed, and the policy passed over it. -/
  | failed (line : String) (failure : Failure)
  deriving DecidableEq, Repr

/-- A logical line and what it would launch. -/
structure Planned where
  line : String
  invocation : Invocation
  deriving DecidableEq, Repr

/-- Two lines: the logical line, and what it would launch. -/
def Planned.toText (planned : Planned) : String :=
  planned.line ++ "\n" ++
    match planned.invocation with
    | .argv words => "  argv: " ++ Text.quotedList words ++ "\n"
    | .shell line => "  shell: " ++ line ++ "\n"

/-- The state of a run between two pulls. -/
structure Progress where
  splitter : Splitter
  finished : Bool
  deriving DecidableEq, Repr

/-- What comes of one pull: events, and a completion or an error, or nothing at the end. -/
structure Pulled (σ : Type) where
  events : List Event
  item : Option (Except Error Completion)
  progress : Progress
  state : σ

/-- What comes of a run. -/
structure Ran (σ : Type) where
  events : List Event
  result : Except Error (List Completion)
  state : σ

namespace Runner

/-- The runner that a program starts from. -/
def default : Runner := { primitive := .run }

/-- The runner with its settings. -/
def describe (runner : Runner) : String :=
  "Runs \x7b primitive: " ++ runner.primitive.describe ++ ", echo: " ++ runner.echo.describe ++
    ", on_exception: " ++ runner.onFailure.describe ++
    ", encoding: " ++ runner.encoding.describe ++ ", options: " ++ runner.options.describe ++ ", .. \x7d"

/-- What an event prints. -/
def print (runner : Runner) : Event → Streams
  | .echoed line => .printed (runner.echo.print line)
  | .launched _ spilled => spilled
  | .failed line _ => .warned (runner.onFailure.print line)

/-! ## Plans -/

/-- What a logical line launches; nothing if it is only a comment. -/
def invocationFor (runner : Runner) (line : String) : Except Error (Option Invocation) :=
  match Word.ofLine line with
  | .error fault => .error (.words line fault)
  | .ok [] => .ok none
  | .ok words =>
    if runner.options.shell then
      match Word.toLine words with
      | .error fault => .error (.words line fault)
      | .ok command => .ok (some (.shell command))
    else .ok (some (.argv words))

/-- The splitter of a block, if the request makes sense. -/
def splitter (runner : Runner) (block : Block) : Except Error Splitter := do
  let splitter ← Splitter.ofBlock block
  runner.options.validate runner.primitive
  return splitter

/-- What the items of a splitter launch, up to the first error. -/
def planItems (runner : Runner) : List (Except Error String) → Except Error (List Planned)
  | [] => .ok []
  | .error e :: _ => .error e
  | .ok line :: rest =>
    match runner.invocationFor line with
    | .error e => .error e
    | .ok none => runner.planItems rest
    | .ok (some invocation) => (⟨line, invocation⟩ :: ·) <$> runner.planItems rest

/-- The logical lines of a block that launch something, with what they launch. -/
def plan (runner : Runner) (block : Block) : Except Error (List Planned) := do
  runner.planItems (← runner.splitter block).items

/-! ## Turns -/

/-- The events of reading physical lines. -/
def echoes (runner : Runner) (lines : List String) : List Event :=
  if runner.echo.isEnabled then lines.map .echoed else []

/-- Before the first turn. -/
def opens (runner : Runner) (block : Block) : Except Error Progress := do
  return ⟨← runner.splitter block, false⟩

/-- A bound for the number of turns that still give something. -/
def remaining (progress : Progress) : Nat :=
  if progress.finished then 0 else progress.splitter.remaining

/-- What a turn gives, a completion or an error, or nothing at the end, and how the run goes on behind it.
Behind a turn that gives something less is left than the bound. -/
structure Turn (bound : Nat) where
  item : Option (Except Error Completion)
  progress : Progress
  isLess : item.isSome = true → remaining progress < bound

namespace Turn

variable {bound : Nat}

/-- The block is at its end. -/
def ends (splitter : Splitter) : Turn bound := ⟨none, ⟨splitter, false⟩, nofun⟩

/-- A line is complete. -/
def completes (completion : Completion) (splitter : Splitter) (h : splitter.remaining < bound) :
    Turn bound :=
  ⟨some (.ok completion), ⟨splitter, false⟩, fun _ => h⟩

/-- The run is over with an error. -/
def fails (error : Error) (splitter : Splitter) (h : splitter.remaining < bound) : Turn bound :=
  ⟨some (.error error), ⟨splitter, true⟩, fun _ => Nat.zero_lt_of_lt h⟩

/-- What is done behind a turn: at the end, behind an error, or behind a completion, with less left. -/
def onward {β : Type} (turn : Turn bound) (ended : β) (failed : Error → β)
    (goesOn : Completion → (next : Progress) → remaining next < bound → β) : β :=
  match h : turn.item with
  | none => ended
  | some (.error error) => failed error
  | some (.ok completion) => goesOn completion turn.progress (turn.isLess (by rw [h]; rfl))

end Turn

/-- A turn of a run that is not finished. -/
def turnFrom (runner : Runner) {bound : Nat} (splitter : Splitter) (h : splitter.remaining ≤ bound) :
    Dialogue Event (Turn bound) :=
  let pull := splitter.pull
  .tellAll (runner.echoes pull.saw) <|
    match hitem : pull.item with
    | none => .done (.ends pull.next)
    | some item =>
      have hless : pull.next.remaining < bound :=
        Nat.lt_of_lt_of_le (Splitter.pull_remaining_lt hitem) h
      match item with
      | .error error => .done (.fails error pull.next hless)
      | .ok line =>
        match runner.invocationFor line with
        | .error error => .done (.fails error pull.next hless)
        | .ok none => runner.turnFrom pull.next (Nat.le_of_lt hless)
        | .ok (some invocation) =>
          let request := runner.primitive.request runner.options invocation
          .ask request fun launched => .tell (.launched request launched.spilled) <|
            match runner.primitive.judge runner.options runner.encoding invocation launched.outcome with
            | .ok completion => .done (.completes completion pull.next hless)
            | .error failure =>
              if runner.onFailure.suppresses then
                .tell (.failed line failure) (runner.turnFrom pull.next (Nat.le_of_lt hless))
              else .done (.fails (.failed line failure) pull.next hless)
termination_by splitter.remaining
decreasing_by all_goals exact Splitter.pull_remaining_lt hitem

/-- A turn. -/
def turn (runner : Runner) (progress : Progress) : Dialogue Event (Turn (remaining progress)) :=
  if h : progress.finished then .done ⟨none, progress, nofun⟩
  else runner.turnFrom progress.splitter (Nat.le_of_eq (if_neg h).symm)

/-- All turns up to the end of the block or the first error. -/
def turns (runner : Runner) (progress : Progress) : Dialogue Event (Except Error (List Completion)) :=
  (runner.turn progress).bind fun turn =>
    turn.onward (.done (.ok [])) (fun error => .done (.error error)) fun completion next _hless =>
      (runner.turns next).map ((completion :: ·) <$> ·)
termination_by remaining progress
decreasing_by exact _hless

/-- The run of a block to its end or to the first error. -/
def dialogue (runner : Runner) (block : Block) : Dialogue Event (Except Error (List Completion)) :=
  match runner.opens block with
  | .error error => .done (.error error)
  | .ok progress => runner.turns progress

/-! ## Runs with a launcher -/

end Runner

/-- A turn that was carried out. -/
def Pulled.ofTurn {bound : Nat} {σ : Type} (transcript : Transcript Event (Runner.Turn bound) σ) :
    Pulled σ :=
  ⟨transcript.told, transcript.result.item, transcript.result.progress, transcript.state⟩

namespace Runner

section

variable {σ : Type} (runner : Runner) (launcher : Launcher σ)

/-- Pulls once. -/
def pull (progress : Progress) (state : σ) : Pulled σ :=
  .ofTurn ((runner.turn progress).run launcher state)

theorem pull_remaining_lt {progress : Progress} {state : σ} {item : Except Error Completion}
    (h : (runner.pull launcher progress state).item = some item) :
    remaining (runner.pull launcher progress state).progress < remaining progress :=
  ((runner.turn progress).run launcher state).result.isLess (Option.isSome_of_mem h)

/-- All pulls up to the one that gives nothing, that one included. -/
def pulls (progress : Progress) (state : σ) : List (Pulled σ) :=
  let pulled := runner.pull launcher progress state
  match _h : pulled.item with
  | some _ => pulled :: pulls pulled.progress pulled.state
  | none => [pulled]
termination_by remaining progress
decreasing_by exact pull_remaining_lt _ _ _h

/-- Runs a block to its end or to the first error. -/
def execute (block : Block) (state : σ) : Ran σ :=
  let transcript := (runner.dialogue block).run launcher state
  ⟨transcript.told, transcript.result, transcript.state⟩

end

end Runner

end Runbook
