import Runbook.Proofs.Line.Pulls
import Runbook.Proofs.Run.Walk

/-!
# The course of a run

`Course` says by rules how a run gets through the items of its splitter, without the echoes: what each
item comes to, and when it goes on. Each walk has a course (`course_walkFrom`), so that whatever holds
of all courses holds of all walks.

* `launches`, `completions`, `failures` and `errors` are the steps of a trace by their kind, with their
  logical lines. They are seen from outside in its events and its result (`ran_result`).
* `Course.balanced`: each launch comes to one completion, one failure or one error.
* `Course.completions_sublist`: completions come in the order of the logical lines.
-/

namespace Runbook

/-- What an event launches. -/
def Event.invocation? : Event → Option Invocation
  | .launched request _ => some request.invocation
  | _ => none

/-- The failure that an event passes over, with its line. -/
def Event.failure? : Event → Option (String × Failure)
  | .failed line failure => some (line, failure)
  | _ => none

/-- The error is the failure of a launch. -/
def Error.isFailed : Error → Bool
  | .failed _ _ => true
  | _ => false

/-- The run ended with the failure of a launch. -/
def Ran.isFailed {σ : Type} (ran : Ran σ) : Bool :=
  match ran.result with
  | .error error => error.isFailed
  | .ok _ => false

namespace Runner

/-! ## Steps by their kind -/

namespace Step

/-- The logical line that is launched, with what it launches. -/
def launch? : Step → Option Planned
  | launched line request _ => some ⟨line, request.invocation⟩
  | _ => none

/-- A completion, with its line. -/
def completion? : Step → Option (String × Completion)
  | completed line completion => some (line, completion)
  | _ => none

/-- A failure that is passed over, with its line. -/
def failure? : Step → Option (String × Failure)
  | passedOver line failure => some (line, failure)
  | _ => none

/-- The error that stops the run. -/
def error? : Step → Option Error
  | stopped error => some error
  | _ => none

/-- The step is only the echo of a physical line. -/
def isEcho : Step → Bool
  | echoed _ => true
  | _ => false

end Step

namespace Trace

variable {σ : Type} (trace : Trace σ)

/-- The logical lines that are launched, in order. -/
def launches : List Planned := trace.steps.filterMap Step.launch?

/-- The completions with their lines, in order. -/
def completions : List (String × Completion) := trace.steps.filterMap Step.completion?

/-- The failures that are passed over with their lines, in order. -/
def failures : List (String × Failure) := trace.steps.filterMap Step.failure?

/-- The errors that stop the run. -/
def errors : List Error := trace.steps.filterMap Step.error?

/-- The trace without its echoes. -/
def unechoed : Trace σ := ⟨trace.steps.filter fun step => !step.isEcho, trace.state⟩

theorem unechoed_after {steps : List Step} (h : ∀ step ∈ steps, step.isEcho = true) :
    (trace.after steps).unechoed = trace.unechoed := by
  have hnil : steps.filter (fun step => !step.isEcho) = [] := by
    rw [List.filter_eq_nil_iff]
    intro step hstep
    simp [h step hstep]
  simp [unechoed, after, hnil]

theorem filterMap_unechoed {β : Type} {kind : Step → Option β}
    (h : ∀ line, kind (.echoed line) = none) :
    trace.unechoed.steps.filterMap kind = trace.steps.filterMap kind := by
  rw [unechoed, List.filterMap_filter]
  congr 1
  funext step
  cases step with
  | echoed line => simp [Step.isEcho, h]
  | _ => rfl

theorem launches_unechoed : trace.unechoed.launches = trace.launches :=
  trace.filterMap_unechoed fun _ => rfl

theorem completions_unechoed : trace.unechoed.completions = trace.completions :=
  trace.filterMap_unechoed fun _ => rfl

theorem failures_unechoed : trace.unechoed.failures = trace.failures :=
  trace.filterMap_unechoed fun _ => rfl

theorem errors_unechoed : trace.unechoed.errors = trace.errors :=
  trace.filterMap_unechoed fun _ => rfl

theorem events_invocations :
    trace.events.filterMap Event.invocation? = trace.launches.map (·.invocation) := by
  rw [events, seen, launches, List.filterMap_map, List.filterMap_filterMap, List.map_filterMap]
  congr 1
  funext step
  cases step <;> rfl

theorem events_failures : trace.events.filterMap Event.failure? = trace.failures := by
  rw [events, seen, failures, List.filterMap_map, List.filterMap_filterMap]
  congr 1
  funext step
  cases step <;> rfl

theorem items_completions :
    trace.items.filterMap Except.toOption = trace.completions.map (·.2) := by
  rw [items, seen, completions, List.filterMap_map, List.filterMap_filterMap, List.map_filterMap]
  congr 1
  funext step
  cases step <;> rfl

/-- A trace stops with an error. -/
theorem errors_eq_nil_iff : trace.errors = [] ↔ trace.stops = false := by
  rw [errors, List.filterMap_eq_nil_iff, stops, List.any_eq_false]
  refine forall₂_congr fun step _ => ?_
  cases step <;> simp [Step.error?, Step.isStop]

/-- The result of a trace: the first error, or else all completions. -/
theorem ran_result :
    trace.ran.result =
      match trace.errors with
      | [] => .ok (trace.completions.map (·.2))
      | error :: _ => .error error := by
  obtain ⟨steps, state⟩ := trace
  unfold ran items seen errors completions
  dsimp only
  induction steps with
  | nil => rfl
  | cons step steps ih =>
    cases step with
    | completed line completion =>
      change (completion :: ·) <$> collect _ = _
      rw [ih]
      simp only [List.filterMap_cons, Step.error?, Step.completion?, List.map_cons]
      cases steps.filterMap Step.error? <;> rfl
    | stopped error => rfl
    | _ => exact ih

theorem ran_isFailed : trace.ran.isFailed = trace.errors.head?.any Error.isFailed := by
  rw [Ran.isFailed, ran_result]
  cases trace.errors <;> rfl

end Trace

/-! ## Courses -/

section

variable {σ : Type} (runner : Runner) (launcher : Launcher σ)

/-- How a run gets through the items of its splitter. -/
inductive Course : List (Except Error String) → σ → Trace σ → Prop
  /-- All items are done. -/
  | done (state : σ) : Course [] state (.quiet state)
  /-- The splitter gives an error. -/
  | broken (error : Error) (items : List (Except Error String)) (state : σ) :
    Course (.error error :: items) state ⟨[.stopped error], state⟩
  /-- A line gives nothing that could be launched. -/
  | refused {line : String} {error : Error} (h : runner.invocationFor line = .error error)
    (items : List (Except Error String)) (state : σ) :
    Course (.ok line :: items) state ⟨[.stopped error], state⟩
  /-- A line that is only a comment is left behind. -/
  | comment {line : String} {items : List (Except Error String)} {state : σ} {trace : Trace σ}
    (h : runner.invocationFor line = .ok none) (rest : Course items state trace) :
    Course (.ok line :: items) state trace
  /-- The launch for a line comes to a completion. -/
  | completed {line : String} {items : List (Except Error String)} {state next : σ} {trace : Trace σ}
    {invocation : Invocation} {launched : Launched} {completion : Completion}
    (h : runner.Launches launcher line state invocation launched next (.ok completion))
    (rest : Course items next trace) :
    Course (.ok line :: items) state
      (trace.after [runner.launchStep line invocation launched, .completed line completion])
  /-- The launch for a line fails, and the policy passes over it. -/
  | passedOver {line : String} {items : List (Except Error String)} {state next : σ} {trace : Trace σ}
    {invocation : Invocation} {launched : Launched} {failure : Failure}
    (h : runner.Launches launcher line state invocation launched next (.error failure))
    (hpolicy : runner.onFailure.suppresses = true) (rest : Course items next trace) :
    Course (.ok line :: items) state
      (trace.after [runner.launchStep line invocation launched, .passedOver line failure])
  /-- The launch for a line fails, and the run with it. -/
  | failed {line : String} {state next : σ} {invocation : Invocation} {launched : Launched}
    {failure : Failure}
    (h : runner.Launches launcher line state invocation launched next (.error failure))
    (hpolicy : runner.onFailure.suppresses = false) (items : List (Except Error String)) :
    Course (.ok line :: items) state
      ⟨[runner.launchStep line invocation launched, .stopped (.failed line failure)], next⟩

variable {runner launcher}

/-- A line, and then what comes behind it. -/
theorem course_attend {line : String} {items : List (Except Error String)} {state : σ}
    {rest : σ → Trace σ} (hrest : ∀ next, runner.Course launcher items next (rest next).unechoed) :
    runner.Course launcher (.ok line :: items) state
      ((runner.attend launcher line state).andThen rest).unechoed := by
  have hattended := runner.attended launcher line state
  generalize runner.attend launcher line state = trace at hattended
  cases hattended with
  | refused h => exact .refused h items state
  | comment h => exact .comment h (hrest state)
  | completed h => exact .completed h (hrest _)
  | passedOver h hpolicy => exact .passedOver h hpolicy (hrest _)
  | failed h hpolicy => exact .failed h hpolicy items

variable (runner launcher) in
/-- **Each walk has a course** through the items of its splitter. -/
theorem course_walkFrom (splitter : Splitter) (state : σ) :
    runner.Course launcher splitter.items state (runner.walkFrom launcher splitter state).unechoed := by
  induction splitter using Splitter.pull_induction generalizing state with
  | step splitter ih =>
    have hechoes : ∀ step ∈ splitter.pull.saw.flatMap runner.echoSteps, step.isEcho = true := by
      intro step hstep
      obtain ⟨line, -, hstep⟩ := List.mem_flatMap.mp hstep
      unfold echoSteps at hstep
      split_ifs at hstep
      · rw [List.mem_singleton.mp hstep]
        rfl
      · cases hstep
    rw [walkFrom_eq_follow, follow, Trace.unechoed_after _ hechoes]
    cases hitem : splitter.pull.item with
    | none =>
      rw [Splitter.items_of_none hitem]
      exact .done state
    | some item =>
      rw [Splitter.items_of_some hitem]
      cases item with
      | error error => exact .broken error _ state
      | ok line => exact course_attend fun next => ih _ hitem next

/-! ## What holds of all courses -/

/-- A line that gives no invocation is named with what is wrong with its words. -/
theorem exists_fault_of_invocationFor {line : String} {error : Error}
    (h : runner.invocationFor line = .error error) : ∃ fault, error = .words line fault := by
  unfold invocationFor at h
  split at h
  · exact ⟨_, (Except.error.inj h).symm⟩
  · cases h
  · split_ifs at h
    split at h
    · exact ⟨_, (Except.error.inj h).symm⟩
    · cases h

/-- A line that gives no invocation is not a launch that fails. -/
theorem isFailed_of_invocationFor {line : String} {error : Error}
    (h : runner.invocationFor line = .error error) : error.isFailed = false := by
  obtain ⟨fault, rfl⟩ := exists_fault_of_invocationFor h
  rfl

/-- Each launch comes to one completion, one failure that is passed over, or one error. -/
theorem Course.balanced {items : List (Except Error String)} {state : σ} {trace : Trace σ}
    (h : runner.Course launcher items state trace)
    (hitems : ∀ error, .error error ∈ items → error.isFailed = false) :
    trace.launches.length =
      trace.completions.length + trace.failures.length + trace.ran.isFailed.toNat := by
  rw [Trace.ran_isFailed]
  induction h with
  | done => rfl
  | broken error items state =>
    change 0 = 0 + 0 + error.isFailed.toNat
    rw [hitems error List.mem_cons_self]
    rfl
  | @refused line error h items state =>
    change 0 = 0 + 0 + error.isFailed.toNat
    rw [isFailed_of_invocationFor h]
    rfl
  | comment _ _ ih => exact ih fun error herror => hitems error (List.mem_cons_of_mem _ herror)
  | @completed _ _ _ _ trace _ _ _ _ _ ih =>
    have hrest := ih fun error herror => hitems error (List.mem_cons_of_mem _ herror)
    change trace.launches.length + 1 = (trace.completions.length + 1) + trace.failures.length +
      (trace.errors.head?.any Error.isFailed).toNat
    omega
  | @passedOver _ _ _ _ trace _ _ _ _ _ _ ih =>
    have hrest := ih fun error herror => hitems error (List.mem_cons_of_mem _ herror)
    change trace.launches.length + 1 = trace.completions.length + (trace.failures.length + 1) +
      (trace.errors.head?.any Error.isFailed).toNat
    omega
  | failed => rfl

/-- Completions come in the order of the logical lines. -/
theorem Course.completions_sublist {items : List (Except Error String)} {state : σ} {trace : Trace σ}
    (h : runner.Course launcher items state trace) :
    (trace.completions.map (·.1)).Sublist (items.filterMap Except.toOption) := by
  induction h with
  | done => exact .slnil
  | broken => exact List.nil_sublist _
  | refused => exact List.nil_sublist _
  | comment _ _ ih => exact ih.cons _
  | completed _ _ ih => exact ih.cons_cons _
  | passedOver _ _ _ ih => exact ih.cons _
  | failed => exact List.nil_sublist _

end

end Runner

end Runbook
