import Runbook.Proofs.Run.Simulation

/-!
# One pull of a run

`Advances` says by rules how one pull gets from a splitter to what it gives: it leaves behind comments
and failures that are passed over, and ends at the first item of any other kind.

* `advances`: each pull follows these rules, so that whatever they keep holds of all pulls.
* `pull_launches`: a pull launches once for each failure that it passes over, and once more if what it
  gives comes of a launch. So one pull launches at most once where failures end the run, but not where
  they are passed over (`pull_launches_twice`).
-/

namespace Runbook

variable {σ : Type}

namespace Pulled

/-- What a pull launches, in order. -/
def launches (pulled : Pulled σ) : List Invocation := pulled.events.filterMap Event.invocation?

/-- The failures that a pull passes over, with their lines. -/
def failures (pulled : Pulled σ) : List (String × Failure) := pulled.events.filterMap Event.failure?

end Pulled

namespace Runner

/-- What a pull gives comes of a launch: a completion, or the failure that ends the run. -/
def comesOfLaunch : Except Error Completion → Bool
  | .ok _ => true
  | .error error => error.isFailed

variable (runner : Runner) (launcher : Launcher σ)

/-- The event of a launch. -/
def launchEvent (invocation : Invocation) (launched : Launched) : Event :=
  .launched (runner.primitive.request runner.options invocation) launched.spilled

/-- How one pull gets from a splitter to what it gives. -/
inductive Advances : Splitter → σ → Pulled σ → Prop
  /-- The splitter is at its end. -/
  | ended {splitter : Splitter} {state : σ} (h : splitter.pull.item = none) :
    Advances splitter state
      ⟨runner.echoes splitter.pull.saw, none, ⟨splitter.pull.next, false⟩, state⟩
  /-- The splitter gives an error. -/
  | broken {splitter : Splitter} {state : σ} {error : Error}
    (h : splitter.pull.item = some (.error error)) :
    Advances splitter state (fails (runner.echoes splitter.pull.saw) error splitter.pull.next state)
  /-- A line gives nothing that could be launched. -/
  | refused {splitter : Splitter} {state : σ} {line : String} {error : Error}
    (h : splitter.pull.item = some (.ok line)) (hline : runner.invocationFor line = .error error) :
    Advances splitter state (fails (runner.echoes splitter.pull.saw) error splitter.pull.next state)
  /-- A line that is only a comment is left behind. -/
  | comment {splitter : Splitter} {state : σ} {line : String} {pulled : Pulled σ}
    (h : splitter.pull.item = some (.ok line)) (hline : runner.invocationFor line = .ok none)
    (rest : Advances splitter.pull.next state pulled) :
    Advances splitter state (pulled.after (runner.echoes splitter.pull.saw))
  /-- The launch for a line comes to a completion. -/
  | completed {splitter : Splitter} {state next : σ} {line : String} {invocation : Invocation}
    {launched : Launched} {completion : Completion} (h : splitter.pull.item = some (.ok line))
    (hlaunch : runner.Launches launcher line state invocation launched next (.ok completion)) :
    Advances splitter state
      ⟨runner.echoes splitter.pull.saw ++ [runner.launchEvent invocation launched],
        some (.ok completion), ⟨splitter.pull.next, false⟩, next⟩
  /-- The launch for a line fails, and the policy passes over it. -/
  | passedOver {splitter : Splitter} {state next : σ} {line : String} {invocation : Invocation}
    {launched : Launched} {failure : Failure} {pulled : Pulled σ}
    (h : splitter.pull.item = some (.ok line))
    (hlaunch : runner.Launches launcher line state invocation launched next (.error failure))
    (hpolicy : runner.onFailure.suppresses = true)
    (rest : Advances splitter.pull.next next pulled) :
    Advances splitter state
      (pulled.after (runner.echoes splitter.pull.saw ++
        [runner.launchEvent invocation launched, .failed line failure]))
  /-- The launch for a line fails, and the run with it. -/
  | failed {splitter : Splitter} {state next : σ} {line : String} {invocation : Invocation}
    {launched : Launched} {failure : Failure} (h : splitter.pull.item = some (.ok line))
    (hlaunch : runner.Launches launcher line state invocation launched next (.error failure))
    (hpolicy : runner.onFailure.suppresses = false) :
    Advances splitter state
      (fails (runner.echoes splitter.pull.saw ++ [runner.launchEvent invocation launched])
        (.failed line failure) splitter.pull.next next)

/-- Each pull follows the rules. -/
theorem advances (splitter : Splitter) (state : σ) :
    runner.Advances launcher splitter state (runner.advance launcher splitter state) := by
  induction splitter using Splitter.pull_induction generalizing state with
  | step splitter ih =>
    rw [advance_eq_resume, resume]
    cases hitem : splitter.pull.item with
    | none => exact .ended hitem
    | some item =>
      cases item with
      | error error => exact .broken hitem
      | ok line =>
        dsimp only
        have hattended := runner.attended launcher line state
        generalize runner.attend launcher line state = trace at hattended ⊢
        cases hattended with
        | refused h =>
          have hrefused : runner.Advances launcher splitter state _ := .refused hitem h
          simpa [fails, Trace.items, Trace.events, Trace.seen, Trace.stops, Step.seen, Step.isStop,
            List.filterMap_cons] using hrefused
        | comment h =>
          have hcomment : runner.Advances launcher splitter state _ := .comment hitem h (ih _ hitem state)
          simpa [Trace.quiet, Trace.items, Trace.events, Trace.seen] using hcomment
        | completed h => exact .completed hitem h
        | passedOver h hpolicy => exact .passedOver hitem h hpolicy (ih _ hitem _)
        | failed h hpolicy => exact .failed hitem h hpolicy

/-- A pull finds the run finished, or it follows the rules. -/
theorem pull_finished_or_advances (progress : Progress) (state : σ) :
    runner.pull launcher progress state = ⟨[], none, progress, state⟩ ∨
      runner.Advances launcher progress.splitter state (runner.pull launcher progress state) := by
  by_cases hfinished : progress.finished = true
  · exact .inl (runner.pull_of_finished launcher hfinished state)
  · rw [runner.pull_of_unfinished launcher hfinished]
    exact .inr (runner.advances launcher progress.splitter state)

/-! ## Launches in one pull -/

theorem filterMap_echoes {β : Type} {kind : Event → Option β} (h : ∀ line, kind (.echoed line) = none)
    (lines : List String) : (runner.echoes lines).filterMap kind = [] := by
  rw [List.filterMap_eq_nil_iff]
  intro event hevent
  unfold echoes at hevent
  split_ifs at hevent
  · obtain ⟨line, -, rfl⟩ := List.mem_map.mp hevent
    exact h line
  · cases hevent

@[simp] theorem invocations_echoes (lines : List String) :
    (runner.echoes lines).filterMap Event.invocation? = [] :=
  runner.filterMap_echoes (fun _ => rfl) lines

@[simp] theorem failures_echoes (lines : List String) :
    (runner.echoes lines).filterMap Event.failure? = [] :=
  runner.filterMap_echoes (fun _ => rfl) lines

variable {runner launcher}

/-- Each launch of a pull is passed over as a failure, or the pull gives what comes of it. -/
theorem Advances.launches_length {splitter : Splitter} {state : σ} {pulled : Pulled σ}
    (h : runner.Advances launcher splitter state pulled) :
    pulled.launches.length = pulled.failures.length + (pulled.item.any comesOfLaunch).toNat := by
  unfold Pulled.launches Pulled.failures
  induction h with
  | ended h => simp
  | broken h =>
    obtain ⟨line, rfl⟩ := Splitter.exists_line_of_pull h
    simp [fails, comesOfLaunch, Error.isFailed]
  | refused h hline => simp [fails, comesOfLaunch, isFailed_of_invocationFor hline]
  | comment h hline rest ih => simpa [Pulled.after] using ih
  | completed h hlaunch => simp [launchEvent, Event.invocation?, Event.failure?, comesOfLaunch]
  | @passedOver _ _ _ _ _ _ _ pulled h hlaunch hpolicy rest ih =>
    have hlength : (pulled.events.filterMap Event.invocation?).length + 1 =
        (pulled.events.filterMap Event.failure?).length + 1 +
          (pulled.item.any comesOfLaunch).toNat := by omega
    simpa [Pulled.after, launchEvent, Event.invocation?, Event.failure?, List.filterMap_cons] using hlength
  | failed h hlaunch hpolicy =>
    simp [fails, launchEvent, Event.invocation?, Event.failure?, comesOfLaunch, Error.isFailed]

theorem Advances.failures_eq_nil {splitter : Splitter} {state : σ} {pulled : Pulled σ}
    (h : runner.Advances launcher splitter state pulled) (hpolicy : runner.onFailure.suppresses = false) :
    pulled.failures = [] := by
  unfold Pulled.failures
  induction h with
  | ended h => simp
  | broken h => simp [fails]
  | refused h hline => simp [fails]
  | comment h hline rest ih => simpa [Pulled.after] using ih
  | completed h hlaunch => simp [launchEvent, Event.failure?]
  | passedOver h hlaunch hpasses rest ih =>
    rw [hpolicy] at hpasses
    cases hpasses
  | failed h hlaunch hpolicy => simp [fails, launchEvent, Event.failure?]

/-- **Each launch of a pull is accounted for**: it fails and is passed over, or the pull gives what comes
of it. So a pull launches at most once if it passes over nothing, which it never does where failures end
the run, or if it passes over one failure and then gives nothing that comes of a launch. A run is opened
without a launcher, so that nothing is launched before the first pull. -/
theorem pull_launches (runner : Runner) (launcher : Launcher σ) (progress : Progress) (state : σ) :
    let pulled := runner.pull launcher progress state
    pulled.launches.length = pulled.failures.length + (pulled.item.any comesOfLaunch).toNat ∧
      (pulled.launches.length ≤ 1 ↔ pulled.failures = [] ∨
        pulled.failures.length = 1 ∧ pulled.item.any comesOfLaunch = false) ∧
      (runner.onFailure = .propagate → pulled.failures = []) := by
  intro pulled
  have hpull : pulled = ⟨[], none, progress, state⟩ ∨ _ :=
    runner.pull_finished_or_advances launcher progress state
  have hlaunches : pulled.launches.length =
      pulled.failures.length + (pulled.item.any comesOfLaunch).toNat := by
    rcases hpull with hfinished | hadvances
    · rw [hfinished]
      rfl
    · exact hadvances.launches_length
  refine ⟨hlaunches, ?_, fun hpolicy => ?_⟩
  · rw [hlaunches, ← List.length_eq_zero_iff]
    cases pulled.item.any comesOfLaunch with
    | true => simp
    | false =>
      have hle : pulled.failures.length ≤ 1 ↔
          pulled.failures.length = 0 ∨ pulled.failures.length = 1 := by omega
      simpa using hle
  · rcases hpull with hfinished | hadvances
    · rw [hfinished]
      rfl
    · exact hadvances.failures_eq_nil (by rw [hpolicy]; rfl)

/-- Where failures end the run, the first of two lines that fail is the only one launched. -/
theorem pull_launches_once :
    let runner : Runner := { primitive := .checkCall, onFailure := .propagate }
    let launcher : Launcher Unit := fun _ _ => (⟨.ok ⟨1, none, none⟩, .silent⟩, ())
    let pulled := runner.pull launcher ⟨.ofLines ["a", "b"], false⟩ ()
    pulled.item = some (.error (.failed "a" (.exit 1 none))) ∧ pulled.failures = [] ∧
      pulled.launches.length = 1 := by
  intro runner launcher pulled
  obtain ⟨hlength, -, hpropagate⟩ :=
    pull_launches runner launcher ⟨.ofLines ["a", "b"], false⟩ ()
  have hitem : pulled.item = some (.error (.failed "a" (.exit 1 none))) := by
    change (runner.advance launcher (.ofLines ["a", "b"]) ()).item = _
    rw [advance_eq_resume]
    rfl
  have hfailures : pulled.failures = [] := hpropagate rfl
  refine ⟨hitem, hfailures, ?_⟩
  rw [hlength]
  change pulled.failures.length + (pulled.item.any comesOfLaunch).toNat = 1
  rw [hfailures, hitem]
  rfl

/-- One pull launches twice: it passes over the failures of both lines. -/
theorem pull_launches_twice :
    let runner : Runner := { primitive := .checkCall, onFailure := .ignore }
    let launcher : Launcher Unit := fun _ _ => (⟨.ok ⟨1, none, none⟩, .silent⟩, ())
    let progress : Progress := ⟨.ofLines ["a", "b"], false⟩
    runner.opens (.text "a\nb") = .ok progress ∧
      (runner.pull launcher progress ()).launches = [.argv ["a"], .argv ["b"]] ∧
      ¬ (runner.pull launcher progress ()).launches.length ≤ 1 := by
  intro runner launcher progress
  have hfirst : runner.advance launcher (.ofLines ["a", "b"]) () =
      (runner.advance launcher (.ofLines ["b"]) ()).after
        [.launched ⟨.argv ["a"], {}, .nothing⟩ .silent, .failed "a" (.exit 1 none)] := by
    rw [advance_eq_resume]
    rfl
  have hsecond : runner.advance launcher (.ofLines ["b"]) () =
      (runner.advance launcher (.ofLines []) ()).after
        [.launched ⟨.argv ["b"], {}, .nothing⟩ .silent, .failed "b" (.exit 1 none)] := by
    rw [advance_eq_resume]
    rfl
  have hlast : (runner.advance launcher (.ofLines []) ()).events = [] := by
    rw [advance_eq_resume]
    rfl
  have hlaunches : (runner.pull launcher progress ()).launches = [.argv ["a"], .argv ["b"]] := by
    change (runner.advance launcher (.ofLines ["a", "b"]) ()).launches = _
    rw [hfirst, hsecond]
    simp [Pulled.launches, Pulled.after, hlast, Event.invocation?, List.filterMap_cons]
  refine ⟨by rfl, hlaunches, ?_⟩
  rw [hlaunches]
  decide

end Runner

end Runbook
