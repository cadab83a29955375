import Runbook.Proofs.Run.Opening

/-!
# Plans and runs

A plan says what a run launches.

* `draft` keeps what a plan has collected when it ends, also when it ends with an error
  (`plan_eq_draft`).
* `Course.agrees`: a run launches all of the draft and ends as the draft does, or the failure of a
  launch cuts it off; by induction on the course.
* `execute_agrees_with_plan`: what that means for `execute` and `plan`.
-/

namespace Runbook.Runner

variable {σ : Type}

/-! ## Drafts -/

/-- What a plan collects before it ends, and the error that ends it. -/
structure Draft where
  entries : List Planned
  error? : Option Error

section

variable (runner : Runner)

/-- What planning the items of a splitter collects. -/
def draftItems : List (Except Error String) → Draft
  | [] => ⟨[], none⟩
  | .error error :: _ => ⟨[], some error⟩
  | .ok line :: items =>
    match runner.invocationFor line with
    | .error error => ⟨[], some error⟩
    | .ok none => draftItems items
    | .ok (some invocation) =>
      { draftItems items with entries := ⟨line, invocation⟩ :: (draftItems items).entries }

/-- What planning a block collects. -/
def draft (block : Block) : Draft :=
  match runner.splitter block with
  | .error error => ⟨[], some error⟩
  | .ok splitter => runner.draftItems splitter.items

/-- The plan that a draft is of. -/
def Draft.plan (draft : Draft) : Except Error (List Planned) :=
  match draft.error? with
  | none => .ok draft.entries
  | some error => .error error

theorem planItems_eq_draft (items : List (Except Error String)) :
    runner.planItems items = (runner.draftItems items).plan := by
  induction items with
  | nil => rfl
  | cons item items ih =>
    cases item with
    | error error => rfl
    | ok line =>
      rw [planItems, draftItems]
      cases runner.invocationFor line with
      | error error => rfl
      | ok invocation? =>
        cases invocation? with
        | none => exact ih
        | some invocation =>
          dsimp only
          rw [ih, Draft.plan, Draft.plan]
          dsimp only
          cases (runner.draftItems items).error? <;> rfl

theorem plan_eq_draft (block : Block) : runner.plan block = (runner.draft block).plan := by
  rw [plan, draft]
  cases runner.splitter block with
  | error error => rfl
  | ok splitter => exact runner.planItems_eq_draft splitter.items

/-- The entries are a plan of their own: that of the items before the one that ends the plan. -/
theorem exists_planItems_take (items : List (Except Error String)) :
    ∃ n, runner.planItems (items.take n) = .ok (runner.draftItems items).entries ∧
      ∀ error, (runner.draftItems items).error? = some error →
        runner.planItems (items.take (n + 1)) = .error error := by
  induction items with
  | nil => exact ⟨0, rfl, fun error herror => nomatch herror⟩
  | cons item items ih =>
    obtain ⟨n, hentries, hend⟩ := ih
    cases item with
    | error error => exact ⟨0, rfl, fun _ herror => congrArg _ (Option.some.inj herror)⟩
    | ok line =>
      rw [draftItems]
      cases hline : runner.invocationFor line with
      | error error =>
        refine ⟨0, rfl, fun _ herror => ?_⟩
        rw [List.take_succ_cons, planItems, hline]
        exact congrArg _ (Option.some.inj herror)
      | ok invocation? =>
        refine ⟨n + 1, ?_, fun error herror => ?_⟩
        · rw [List.take_succ_cons, planItems, hline]
          cases invocation? with
          | none => exact hentries
          | some invocation =>
            dsimp only
            rw [hentries]
            rfl
        · rw [List.take_succ_cons, planItems, hline]
          cases invocation? with
          | none => exact hend error herror
          | some invocation =>
            dsimp only
            rw [hend error herror]
            rfl

end

/-! ## Drafts and courses -/

/-- How a run stands to the draft of its items. -/
inductive Agrees (runner : Runner) (draft : Draft) (trace : Trace σ) : Prop
  /-- All of it is launched, and the run ends as the draft does. -/
  | whole (hlaunches : trace.launches = draft.entries) (herrors : trace.errors = draft.error?.toList)
  /-- The failure of a launch cuts it off. -/
  | cut (before after : List Planned) (last : Planned) (failure : Failure)
    (hpolicy : runner.onFailure.suppresses = false) (hlaunches : trace.launches = before ++ [last])
    (hentries : draft.entries = before ++ last :: after)
    (herrors : trace.errors = [.failed last.line failure])

variable {runner : Runner} {launcher : Launcher σ}

/-- One more launch on both sides. -/
theorem Agrees.launch {draft : Draft} {trace : Trace σ} (h : runner.Agrees draft trace)
    {line : String} {invocation : Invocation} {launched : Launched} {step : Step}
    (hlaunch : step.launch? = none) (herror : step.error? = none) :
    runner.Agrees { draft with entries := ⟨line, invocation⟩ :: draft.entries }
      (trace.after [runner.launchStep line invocation launched, step]) := by
  have hlaunches : (trace.after [runner.launchStep line invocation launched, step]).launches =
      ⟨line, invocation⟩ :: trace.launches := by
    simp only [Trace.launches, Trace.after, List.filterMap_append, List.filterMap_cons, hlaunch]
    rfl
  have herrors : (trace.after [runner.launchStep line invocation launched, step]).errors =
      trace.errors := by
    simp only [Trace.errors, Trace.after, List.filterMap_append, List.filterMap_cons, herror]
    rfl
  cases h with
  | whole hrest hend => exact .whole (by rw [hlaunches, hrest]) (herrors.trans hend)
  | cut before after last failure hpolicy hrest hentries hend =>
    refine .cut (⟨line, invocation⟩ :: before) after last failure hpolicy ?_ ?_ (herrors.trans hend)
    · rw [hlaunches, hrest, List.cons_append]
    · rw [hentries, List.cons_append]

theorem Course.agrees {items : List (Except Error String)} {state : σ} {trace : Trace σ}
    (h : runner.Course launcher items state trace) : runner.Agrees (runner.draftItems items) trace := by
  induction h with
  | done => exact .whole rfl rfl
  | broken => exact .whole rfl rfl
  | refused h =>
    rw [draftItems, h]
    exact .whole rfl rfl
  | comment h _ ih =>
    rw [draftItems, h]
    exact ih
  | completed h _ ih =>
    rw [draftItems, h.line]
    exact ih.launch rfl rfl
  | passedOver h _ _ ih =>
    rw [draftItems, h.line]
    exact ih.launch rfl rfl
  | failed h hpolicy items =>
    rw [draftItems, h.line]
    exact .cut [] _ _ _ hpolicy rfl rfl rfl


theorem agrees_of_unechoed {draft : Draft} {trace : Trace σ}
    (h : runner.Agrees draft trace.unechoed) : runner.Agrees draft trace := by
  cases h with
  | whole hlaunches herrors =>
    rw [Trace.launches_unechoed] at hlaunches
    rw [Trace.errors_unechoed] at herrors
    exact .whole hlaunches herrors
  | cut before after last failure hpolicy hlaunches hentries herrors =>
    rw [Trace.launches_unechoed] at hlaunches
    rw [Trace.errors_unechoed] at herrors
    exact .cut before after last failure hpolicy hlaunches hentries herrors

/-- What happens when a block is run agrees with the draft of the block, also when the block is refused. -/
theorem account_agrees (runner : Runner) (launcher : Launcher σ) (block : Block) (state : σ) :
    runner.Agrees (runner.draft block) (runner.account launcher block state) := by
  rw [draft, splitter_eq, account]
  cases runner.misuse? block with
  | some misuse => exact .whole rfl rfl
  | none =>
    have hcourse := runner.course_walkFrom launcher (.ofLines block.physicalLines) state
    exact agrees_of_unechoed hcourse.agrees

theorem exists_agrees (runner : Runner) (launcher : Launcher σ) (block : Block) (state : σ) :
    ∃ trace : Trace σ,
      runner.execute launcher block state = trace.ran ∧ runner.Agrees (runner.draft block) trace :=
  ⟨_, execute_eq_account runner launcher block state, runner.account_agrees launcher block state⟩

theorem Draft.plan_eq_ok_iff {draft : Draft} {entries : List Planned} :
    draft.plan = .ok entries ↔ draft.error? = none ∧ draft.entries = entries := by
  rw [Draft.plan]
  cases draft.error? <;> simp

theorem Draft.plan_eq_error_iff {draft : Draft} {error : Error} :
    draft.plan = .error error ↔ draft.error? = some error := by
  rw [Draft.plan]
  cases draft.error? <;> simp

theorem eq_propagate_of_suppresses {policy : OnFailure} (h : policy.suppresses = false) :
    policy = .propagate := by
  cases policy with
  | propagate => rfl
  | _ => cases h

/-- **A plan and a run agree.** A draft holds what the plan collects before it ends. What a run launches
is the start of it, and all of it unless the failure of a launch ends the run. Where the plan is complete,
the run is complete or ends with the failure of the last line that it launched. Where the plan ends with
an error, the run ends with the same error, or, if failures are not passed over, with the failure of a
launch of the draft. Any other error that ends a run ends the plan. -/
theorem execute_agrees_with_plan (runner : Runner) (launcher : Launcher σ) (block : Block)
    (state : σ) :
    let draft := runner.draft block
    let ran := runner.execute launcher block state
    let handed := ran.events.filterMap Event.invocation?
    runner.plan block = draft.plan ∧
      (∀ splitter, runner.splitter block = .ok splitter →
        ∃ n, runner.planItems (splitter.items.take n) = .ok draft.entries ∧
          ∀ error, draft.error? = some error →
            runner.planItems (splitter.items.take (n + 1)) = .error error) ∧
      handed <+: draft.entries.map (·.invocation) ∧
      (ran.isFailed = false → handed = draft.entries.map (·.invocation)) ∧
      (∀ entries, runner.plan block = .ok entries →
        (∃ completions, ran.result = .ok completions) ∨
          ∃ last failure, (entries.take handed.length).getLast? = some last ∧
            ran.result = .error (.failed last.line failure)) ∧
      (∀ error, runner.plan block = .error error →
        ran.result = .error error ∨
          runner.onFailure = .propagate ∧ ∃ entry ∈ draft.entries, ∃ failure,
            ran.result = .error (.failed entry.line failure)) ∧
      ∀ error, ran.result = .error error → error.isFailed = false →
        runner.plan block = .error error := by
  obtain ⟨trace, hran, hagrees⟩ := exists_agrees runner launcher block state
  have hdraft : ∀ splitter, runner.splitter block = .ok splitter →
      runner.draft block = runner.draftItems splitter.items := fun splitter hsplitter => by
    rw [draft, hsplitter]
  rw [hran, plan_eq_draft]
  generalize runner.draft block = draft at hagrees hdraft
  intro draft ran handed
  have hhanded : handed = trace.launches.map (·.invocation) := trace.events_invocations
  have hresult : ran.result = _ := trace.ran_result
  have hfailed : ran.isFailed = _ := trace.ran_isFailed
  refine ⟨rfl, fun splitter hsplitter => ?_, ?_⟩
  · unfold draft
    rw [hdraft splitter hsplitter]
    exact runner.exists_planItems_take splitter.items
  cases hagrees with
  | whole hlaunches herrors =>
    rw [hlaunches] at hhanded
    rw [herrors] at hresult hfailed
    refine ⟨hhanded ▸ List.prefix_rfl, fun _ => hhanded, fun entries hentries => ?_,
      fun error herror => ?_, fun error herror _ => ?_⟩
    · rw [(Draft.plan_eq_ok_iff.mp hentries).1] at hresult
      exact .inl ⟨_, hresult⟩
    · rw [Draft.plan_eq_error_iff.mp herror] at hresult
      exact .inl hresult
    · rw [Draft.plan_eq_error_iff]
      rw [hresult] at herror
      cases hend : draft.error? with
      | none => rw [hend] at herror; cases herror
      | some end? => rw [hend] at herror; rw [Except.error.inj herror]
  | cut before after last failure hpolicy hlaunches hentries herrors =>
    rw [hlaunches] at hhanded
    rw [herrors] at hresult hfailed
    have hlength : handed.length = before.length + 1 := by rw [hhanded]; simp
    refine ⟨?_, fun hnot => ?_, fun entries hplan => .inr ⟨last, failure, ?_, hresult⟩,
      fun error _ => .inr ⟨eq_propagate_of_suppresses hpolicy, last, ?_, failure, hresult⟩,
      fun error herror hnot => ?_⟩
    · rw [hhanded, hentries]
      refine ⟨after.map (·.invocation), ?_⟩
      simp
    · rw [hfailed] at hnot
      cases hnot
    · rw [← (Draft.plan_eq_ok_iff.mp hplan).2, hentries, hlength]
      simp [List.take_append, List.take_of_length_le]
    · rw [hentries]
      simp
    · rw [hresult] at herror
      obtain rfl := Except.error.inj herror
      cases hnot

end Runbook.Runner
