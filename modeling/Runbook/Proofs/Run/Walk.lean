import Mathlib.Tactic.SplitIfs
import Runbook.Run.Runner

/-!
# A walk over the physical lines

`Runner.walk` tells a run in one pass over the physical lines, without splitters, pulls and progress.

* A `Step` is one thing that happens. Launches and what comes of them are told with their logical line.
* `attend` is all that a complete logical line comes to: nothing for a comment, else one launch and, right
  behind it, a completion, a failure that is passed over, or the error that stops the run.
* `walk` echoes each physical line, glues those that go on, and attends to the logical lines as they are
  complete. `andThen` lets nothing happen behind a stop.
-/

namespace Runbook.Runner

/-- One thing that happens in a run. -/
inductive Step where
  /-- A physical line was read and echoed. -/
  | echoed (line : String)
  /-- A process was launched for a logical line; what it wrote to the streams of the runner. -/
  | launched (line : String) (request : Request) (spilled : Streams)
  /-- The launch for a logical line failed, and the policy passed over it. -/
  | passedOver (line : String) (failure : Failure)
  /-- The launch for a logical line came to a completion. -/
  | completed (line : String) (completion : Completion)
  /-- The run is over with an error. -/
  | stopped (error : Error)
  deriving DecidableEq, Repr

namespace Step

/-- How a step is seen from outside: as an event, or as what a pull gives. -/
def seen : Step → Event ⊕ Except Error Completion
  | echoed line => .inl (.echoed line)
  | launched _ request spilled => .inl (.launched request spilled)
  | passedOver line failure => .inl (.failed line failure)
  | completed _ completion => .inr (.ok completion)
  | stopped error => .inr (.error error)

/-- Nothing happens behind this step. -/
def isStop : Step → Bool
  | stopped _ => true
  | _ => false

end Step

/-- What happens, in order, and the state in which it leaves the launcher. -/
structure Trace (σ : Type) where
  steps : List Step
  state : σ

namespace Trace

variable {σ : Type}

/-- Nothing happens. -/
def quiet (state : σ) : Trace σ := ⟨[], state⟩

/-- Some steps happen before. -/
def after (steps : List Step) (trace : Trace σ) : Trace σ := ⟨steps ++ trace.steps, trace.state⟩

/-- The run is over with an error. -/
def stops (trace : Trace σ) : Bool := trace.steps.any Step.isStop

/-- What happens next, unless the run is over. -/
def andThen (trace : Trace σ) (next : σ → Trace σ) : Trace σ :=
  if trace.stops then trace else (next trace.state).after trace.steps

/-- A trace as it is seen from outside. -/
def seen (trace : Trace σ) : List (Event ⊕ Except Error Completion) := trace.steps.map Step.seen

/-- The events of a trace. -/
def events (trace : Trace σ) : List Event := trace.seen.filterMap Sum.getLeft?

/-- The completions of a trace, and the error that stops it. -/
def items (trace : Trace σ) : List (Except Error Completion) := trace.seen.filterMap Sum.getRight?

/-- The run that a trace tells. -/
def ran (trace : Trace σ) : Ran σ := ⟨trace.events, collect trace.items, trace.state⟩

theorem seen_after (steps : List Step) (trace : Trace σ) :
    (trace.after steps).seen = steps.map Step.seen ++ trace.seen :=
  List.map_append

/-- A stop is an item. -/
theorem stops_of_items_eq_nil {trace : Trace σ} (h : trace.items = []) : trace.stops = false := by
  rw [items, seen, List.filterMap_map, List.filterMap_eq_nil_iff] at h
  rw [stops, List.any_eq_false]
  intro step hstep
  cases step with
  | stopped error => exact absurd (h _ hstep) (Option.some_ne_none _)
  | _ => exact Bool.false_ne_true

theorem quiet_andThen (state : σ) (next : σ → Trace σ) : (quiet state).andThen next = next state := rfl

theorem andThen_quiet (trace : Trace σ) : trace.andThen quiet = trace := by
  unfold andThen
  split_ifs
  · rfl
  · rw [quiet, after, List.append_nil]

end Trace

section

variable {σ : Type} (runner : Runner) (launcher : Launcher σ)

/-- The echo of a physical line. -/
def echoSteps (line : String) : List Step := if runner.echo.isEnabled then [.echoed line] else []

theorem isStop_echoSteps (line : String) : (runner.echoSteps line).any Step.isStop = false := by
  unfold echoSteps
  split_ifs <;> rfl

/-- What a complete logical line comes to. -/
def attend (line : String) (state : σ) : Trace σ :=
  match runner.invocationFor line with
  | .error error => ⟨[.stopped error], state⟩
  | .ok none => .quiet state
  | .ok (some invocation) =>
    let (result, launched, state) :=
      runner.primitive.invoke launcher invocation runner.options runner.encoding state
    let launch := .launched line (runner.primitive.request runner.options invocation) launched.spilled
    match result with
    | .ok completion => ⟨[launch, .completed line completion], state⟩
    | .error failure =>
      if runner.onFailure.suppresses then ⟨[launch, .passedOver line failure], state⟩
      else ⟨[launch, .stopped (.failed line failure)], state⟩

/-- What the end of a group comes to, unless the group is blank. -/
def settle (text : String) (state : σ) : Trace σ :=
  match Line.logical? text with
  | some line => runner.attend launcher line state
  | none => .quiet state

/-- What the physical lines come to behind a text that was kept of the lines before. -/
def walk (buffer : String) : List String → σ → Trace σ
  | [], state => runner.settle launcher buffer state
  | line :: lines, state =>
    .after (runner.echoSteps line) <|
      match Line.fragment? line with
      | some fragment =>
        if Line.keepsHashes fragment then walk (buffer ++ fragment) lines state
        else ⟨[.stopped (.hiddenContinuation line)], state⟩
      | none => (runner.settle launcher (buffer ++ line) state).andThen (walk "" lines)

/-! ## All that a logical line can come to -/

/-- The launch for a logical line, with what the launcher replies and what it is judged to be. -/
structure Launches (line : String) (state : σ) (invocation : Invocation) (launched : Launched)
    (next : σ) (result : Except Failure Completion) : Prop where
  line : runner.invocationFor line = .ok (some invocation)
  reply : launcher (runner.primitive.request runner.options invocation) state = (launched, next)
  result : runner.primitive.judge runner.options runner.encoding invocation launched.outcome = result

/-- The step of a launch. -/
def launchStep (line : String) (invocation : Invocation) (launched : Launched) : Step :=
  .launched line (runner.primitive.request runner.options invocation) launched.spilled

/-- What a logical line comes to, with the reason for it. -/
inductive Attended (line : String) (state : σ) : Trace σ → Prop
  /-- It gives no words, or its words no line for a shell. -/
  | refused {error : Error} (h : runner.invocationFor line = .error error) :
    Attended line state ⟨[.stopped error], state⟩
  /-- It is only a comment. -/
  | comment (h : runner.invocationFor line = .ok none) : Attended line state (.quiet state)
  /-- Its launch comes to a completion. -/
  | completed {invocation : Invocation} {launched : Launched} {next : σ} {completion : Completion}
    (h : runner.Launches launcher line state invocation launched next (.ok completion)) :
    Attended line state
      ⟨[runner.launchStep line invocation launched, .completed line completion], next⟩
  /-- Its launch fails, and the policy passes over it. -/
  | passedOver {invocation : Invocation} {launched : Launched} {next : σ} {failure : Failure}
    (h : runner.Launches launcher line state invocation launched next (.error failure))
    (hpolicy : runner.onFailure.suppresses = true) :
    Attended line state
      ⟨[runner.launchStep line invocation launched, .passedOver line failure], next⟩
  /-- Its launch fails, and the run with it. -/
  | failed {invocation : Invocation} {launched : Launched} {next : σ} {failure : Failure}
    (h : runner.Launches launcher line state invocation launched next (.error failure))
    (hpolicy : runner.onFailure.suppresses = false) :
    Attended line state
      ⟨[runner.launchStep line invocation launched, .stopped (.failed line failure)], next⟩

theorem attended (line : String) (state : σ) :
    runner.Attended launcher line state (runner.attend launcher line state) := by
  unfold attend
  cases hline : runner.invocationFor line with
  | error error => exact .refused hline
  | ok invocation? =>
    cases invocation? with
    | none => exact .comment hline
    | some invocation =>
      rcases hreply : launcher (runner.primitive.request runner.options invocation) state with
        ⟨launched, next⟩
      simp only [Primitive.invoke, hreply]
      cases hresult :
        runner.primitive.judge runner.options runner.encoding invocation launched.outcome with
      | ok completion => exact .completed ⟨hline, hreply, hresult⟩
      | error failure =>
        dsimp only
        split_ifs with hpolicy
        · exact .passedOver ⟨hline, hreply, hresult⟩ hpolicy
        · exact .failed ⟨hline, hreply, hresult⟩ (by simpa using hpolicy)

/-- At most one item comes of a logical line, and it comes last. -/
theorem attend_seen (line : String) (state : σ) :
    let trace := runner.attend launcher line state
    trace.seen = trace.events.map .inl ++ trace.items.head?.toList.map .inr := by
  have hattended := runner.attended launcher line state
  generalize runner.attend launcher line state = trace at hattended
  cases hattended with
  | refused h => rfl
  | comment h => rfl
  | completed h => rfl
  | passedOver h hpolicy => rfl
  | failed h hpolicy => rfl

/-! ## The walk from pull to pull -/

/-- The walk of the lines that a splitter still has. -/
def walkFrom (splitter : Splitter) (state : σ) : Trace σ :=
  if splitter.done then .quiet state else runner.walk launcher splitter.buffer splitter.lines state

/-- What a pull of a splitter comes to, and what comes behind it. -/
def follow (pull : Splitter.Pull) (rest : σ → Trace σ) (state : σ) : Trace σ :=
  .after (pull.saw.flatMap runner.echoSteps) <|
    match pull.item with
    | none => .quiet state
    | some (.error error) => ⟨[.stopped error], state⟩
    | some (.ok line) => (runner.attend launcher line state).andThen rest

theorem follow_sawFirst (line : String) (pull : Splitter.Pull) (rest : σ → Trace σ) (state : σ) :
    runner.follow launcher (pull.sawFirst line) rest state =
      .after (runner.echoSteps line) (runner.follow launcher pull rest state) := by
  simp [follow, Splitter.Pull.sawFirst, Trace.after]

theorem walk_eq_follow (buffer : String) (lines : List String) (state : σ) :
    runner.walk launcher buffer lines state =
      runner.follow launcher (Splitter.advance buffer lines)
        (runner.walkFrom launcher (Splitter.advance buffer lines).next) state := by
  induction lines generalizing buffer with
  | nil =>
    rw [walk, settle, Splitter.advance]
    cases Line.logical? buffer with
    | none => rfl
    | some line => exact (Trace.andThen_quiet _).symm
  | cons line lines ih =>
    rw [walk, Splitter.advance]
    cases hfragment : Line.fragment? line with
    | some fragment =>
      dsimp only
      split_ifs with hkeeps
      · rw [follow_sawFirst, ih]
        rfl
      · simp [follow]
    | none =>
      dsimp only
      rw [settle]
      cases hlogical : Line.logical? (buffer ++ line) with
      | some logical =>
        simp only [follow, List.flatMap_singleton]
        rfl
      | none =>
        dsimp only
        rw [Trace.quiet_andThen, follow_sawFirst, ih]
        rfl

/-- The walk goes on from pull to pull. -/
theorem walkFrom_eq_follow (splitter : Splitter) (state : σ) :
    runner.walkFrom launcher splitter state =
      runner.follow launcher splitter.pull (runner.walkFrom launcher splitter.pull.next) state := by
  rw [walkFrom, Splitter.pull]
  by_cases hdone : splitter.done
  · rw [if_pos hdone, if_pos hdone]
    rfl
  · rw [if_neg hdone, if_neg hdone]
    exact runner.walk_eq_follow launcher splitter.buffer splitter.lines state

end

end Runbook.Runner
