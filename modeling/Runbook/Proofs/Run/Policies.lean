import Runbook.Proofs.Run.Opening

/-!
# Runs under different policies

The same run under two policies: one passes over the failures of launches, the other lets the first of
them end the run.

* `walk_congr`: a walk depends on a policy only through what comes of a logical line, so that all policies
  that pass over failures give the same run (`walk_withPolicy`).
* `Cuts` relates the two traces: they are the same, or one is cut off at the first failure. What comes of
  one logical line is so related (`cuts_attend`), what follows keeps it so (`Cuts.andThen`), and from it
  so are whole walks (`cuts_walk`).
* `first_failure_cuts`: what that means for runs and their pulls.
-/

namespace Runbook.Runner

variable {σ : Type}

/-- The runner with another policy. -/
def withPolicy (runner : Runner) (policy : OnFailure) : Runner := { runner with onFailure := policy }

/-! ## Policies that pass over failures -/

section

variable (launcher : Launcher σ)

/-- A walk is made of echoes and of what comes of logical lines. -/
theorem walk_congr {runner other : Runner} (hecho : runner.echoSteps = other.echoSteps)
    (hattend : runner.attend launcher = other.attend launcher) (buffer : String) (lines : List String)
    (state : σ) : runner.walk launcher buffer lines state = other.walk launcher buffer lines state := by
  have hsettle : runner.settle launcher = other.settle launcher := by
    funext text t
    rw [settle, settle, hattend]
  induction lines generalizing buffer state with
  | nil => rw [walk, walk, hsettle]
  | cons line lines ih =>
    have hrest : ∀ text, runner.walk launcher text lines = other.walk launcher text lines :=
      fun text => funext (ih text)
    rw [walk, walk, hecho, hsettle]
    simp only [hrest]

theorem walk_withPolicy (runner : Runner) {policy other : OnFailure}
    (h : policy.suppresses = other.suppresses) (buffer : String) (lines : List String) (state : σ) :
    (runner.withPolicy policy).walk launcher buffer lines state =
      (runner.withPolicy other).walk launcher buffer lines state := by
  have hecho : (runner.withPolicy policy).echoSteps = (runner.withPolicy other).echoSteps := rfl
  have hattend : (runner.withPolicy policy).attend launcher = (runner.withPolicy other).attend launcher := by
    funext line t
    unfold attend
    simp only [withPolicy, h]
    rfl
  exact walk_congr launcher hecho hattend buffer lines state

end

/-! ## The first failure -/

/-- The second trace is the first, or it is cut off at the first failure that is passed over there. -/
inductive Cuts : Trace σ → Trace σ → Prop
  | whole {trace : Trace σ} (h : trace.failures = []) : Cuts trace trace
  | cut {before after : List Step} {line : String} {request : Request} {spilled : Streams}
    {failure : Failure} {last next : σ} (h : before.filterMap Step.failure? = [])
    (hgoes : before.any Step.isStop = false) :
    Cuts ⟨before ++ .launched line request spilled :: .passedOver line failure :: after, last⟩
      ⟨before ++ [.launched line request spilled, .stopped (.failed line failure)], next⟩

theorem Cuts.after {passing failing : Trace σ} (h : Cuts passing failing) {steps : List Step}
    (hsteps : steps.filterMap Step.failure? = []) (hgo : steps.any Step.isStop = false) :
    Cuts (passing.after steps) (failing.after steps) := by
  cases h with
  | whole h =>
    refine .whole ?_
    rw [Trace.failures, Trace.after, List.filterMap_append, hsteps]
    exact h
  | @cut before after line request spilled failure last next h hgoes =>
    unfold Trace.after
    rw [← List.append_assoc, ← List.append_assoc]
    refine .cut ?_ ?_
    · rw [List.filterMap_append, hsteps, h]
      rfl
    · rw [List.any_append, hgo, hgoes]
      rfl

theorem Cuts.andThen {passing failing : Trace σ} (h : Cuts passing failing) {next other : σ → Trace σ}
    (hnext : ∀ state, Cuts (next state) (other state)) :
    Cuts (passing.andThen next) (failing.andThen other) := by
  cases h with
  | whole h =>
    unfold Trace.andThen
    split_ifs with hstops
    · exact .whole h
    · exact (hnext _).after h (by simpa [Trace.stops] using hstops)
  | @cut before after line request spilled failure last state h hgoes =>
    have hstops : Trace.stops ⟨before ++ [.launched line request spilled,
        .stopped (.failed line failure)], state⟩ = true := by
      simp [Trace.stops, Step.isStop]
    rw [Trace.andThen, Trace.andThen, if_pos hstops]
    split_ifs
    · exact .cut h hgoes
    · unfold Trace.after
      rw [List.append_assoc, List.cons_append, List.cons_append]
      exact .cut h hgoes

/-- Steps among which no failure is passed over are not seen to pass over one. -/
theorem not_mem_seen {steps : List Step} (h : steps.filterMap Step.failure? = []) (line : String)
    (failure : Failure) : .inl (.failed line failure) ∉ steps.map Step.seen := by
  intro hmem
  obtain ⟨step, hstep, hseen⟩ := List.mem_map.mp hmem
  have hnone := List.filterMap_eq_nil_iff.mp h step hstep
  cases step with
  | passedOver l f => cases hnone
  | _ => cases hseen

/-- What a trace that is cut off has in common with the other one. -/
theorem Cuts.of_failure {passing failing : Trace σ} (h : Cuts passing failing) {line : String}
    {failure : Failure} {rest : List (String × Failure)}
    (hfailures : passing.failures = (line, failure) :: rest) :
    ∃ before request spilled after, (∀ l f, .inl (.failed l f) ∉ before) ∧
      passing.seen = before ++ .inl (.launched request spilled) :: .inl (.failed line failure) :: after ∧
      failing.seen =
        before ++ [.inl (.launched request spilled), .inr (.error (.failed line failure))] ∧
      failing.ran.events = before.filterMap Sum.getLeft? ++ [.launched request spilled] ∧
      failing.ran.result = .error (.failed line failure) := by
  cases h with
  | whole h =>
    rw [h] at hfailures
    cases hfailures
  | @cut before after l request spilled f last next h hgoes =>
    have hfirst : before.filterMap Step.failure? ++ (l, f) :: after.filterMap Step.failure? =
        (line, failure) :: rest := by
      rw [← hfailures, Trace.failures, List.filterMap_append]
      rfl
    rw [h, List.nil_append] at hfirst
    obtain ⟨rfl, rfl⟩ := Prod.mk.inj (List.cons.inj hfirst).1
    have hcut : Trace.seen ⟨before ++ [.launched l request spilled, .stopped (.failed l f)], next⟩ =
        before.map Step.seen ++ [.inl (.launched request spilled), .inr (.error (.failed l f))] := by
      simp [Trace.seen, Step.seen]
    refine ⟨before.map Step.seen, request, spilled, after.map Step.seen, not_mem_seen h, ?_, hcut, ?_, ?_⟩
    · simp [Trace.seen, Step.seen]
    · rw [Trace.ran, Trace.events, hcut, List.filterMap_append]
      rfl
    · have herrors : Trace.errors ⟨before, last⟩ = [] := (Trace.errors_eq_nil_iff _).mpr hgoes
      have hend : Trace.errors ⟨before ++ [.launched l request spilled, .stopped (.failed l f)], next⟩ =
          [.failed l f] := by
        rw [Trace.errors, List.filterMap_append]
        exact congrArg (· ++ _) herrors
      rw [Trace.ran_result, hend]

theorem Cuts.of_no_failure {passing failing : Trace σ} (h : Cuts passing failing)
    (hfailures : passing.failures = []) : failing = passing := by
  cases h with
  | whole h => rfl
  | @cut before after line request spilled failure last next h hgoes =>
    rw [Trace.failures, List.filterMap_append, h] at hfailures
    cases hfailures

section

variable (runner : Runner) (launcher : Launcher σ) {policy : OnFailure}
  (hpolicy : policy.suppresses = true)

include hpolicy

theorem cuts_attend (line : String) (state : σ) :
    Cuts ((runner.withPolicy policy).attend launcher line state)
      ((runner.withPolicy .propagate).attend launcher line state) := by
  have hline : ∀ p, (runner.withPolicy p).invocationFor line = runner.invocationFor line := fun _ => rfl
  rw [attend, attend, hline, hline]
  cases runner.invocationFor line with
  | error error => exact .whole rfl
  | ok invocation? =>
    cases invocation? with
    | none => exact .whole rfl
    | some invocation =>
      rcases hinvoke : runner.primitive.invoke launcher invocation runner.options runner.encoding state
        with ⟨result, launched, next⟩
      have hboth : ∀ p, (runner.withPolicy p).primitive.invoke launcher invocation
          (runner.withPolicy p).options (runner.withPolicy p).encoding state = (result, launched, next) :=
        fun _ => hinvoke
      simp only [hboth]
      cases result with
      | ok completion => exact .whole rfl
      | error failure =>
        have hpasses : (runner.withPolicy policy).onFailure.suppresses = true := hpolicy
        have hfails : ¬ (runner.withPolicy .propagate).onFailure.suppresses = true := Bool.false_ne_true
        have hnone : ([] : List Step).filterMap Step.failure? = [] := rfl
        dsimp only
        rw [if_pos hpasses, if_neg hfails]
        exact .cut hnone rfl

theorem cuts_settle (text : String) (state : σ) :
    Cuts ((runner.withPolicy policy).settle launcher text state)
      ((runner.withPolicy .propagate).settle launcher text state) := by
  unfold settle
  cases Line.logical? text with
  | some line => exact cuts_attend runner launcher hpolicy line state
  | none => exact .whole rfl

/-- The walk under the one policy is cut off at the first failure of the walk under the other. -/
theorem cuts_walk (buffer : String) (lines : List String) (state : σ) :
    Cuts ((runner.withPolicy policy).walk launcher buffer lines state)
      ((runner.withPolicy .propagate).walk launcher buffer lines state) := by
  induction lines generalizing buffer state with
  | nil => exact cuts_settle runner launcher hpolicy buffer state
  | cons line lines ih =>
    have hechoes : (runner.echoSteps line).filterMap Step.failure? = [] := by
      unfold echoSteps
      split_ifs <;> rfl
    rw [walk, walk]
    refine Cuts.after ?_ hechoes (runner.isStop_echoSteps line)
    cases Line.fragment? line with
    | some fragment =>
      dsimp only
      split_ifs
      · exact ih _ state
      · exact .whole rfl
    | none => exact (cuts_settle runner launcher hpolicy _ state).andThen (ih "")

end

/-- Where failures are passed over, no run ends with one. -/
theorem Course.isFailed_of_passed {runner : Runner} {launcher : Launcher σ}
    {items : List (Except Error String)} {state : σ} {trace : Trace σ}
    (h : runner.Course launcher items state trace) (hpolicy : runner.onFailure.suppresses = true)
    (hitems : ∀ error, .error error ∈ items → error.isFailed = false) :
    ∀ error ∈ trace.errors, error.isFailed = false := by
  induction h with
  | done => exact fun error herror => (nomatch herror)
  | broken error items state =>
    intro other hother
    rw [List.mem_singleton.mp hother]
    exact hitems error List.mem_cons_self
  | refused h items state =>
    intro other hother
    rw [List.mem_singleton.mp hother]
    exact isFailed_of_invocationFor h
  | comment h rest ih => exact ih fun error herror => hitems error (List.mem_cons_of_mem _ herror)
  | completed h rest ih => exact ih fun error herror => hitems error (List.mem_cons_of_mem _ herror)
  | passedOver h hpasses rest ih =>
    exact ih fun error herror => hitems error (List.mem_cons_of_mem _ herror)
  | failed h hfails items =>
    rw [hpolicy] at hfails
    cases hfails

/-! ## Runs -/

theorem suppresses_of_ne {policy : OnFailure} (h : policy ≠ .propagate) : policy.suppresses = true := by
  simpa [OnFailure.suppresses] using h

section

variable (runner : Runner) (launcher : Launcher σ) (block : Block) (state : σ)

/-- All policies that pass over failures make the same run. -/
theorem account_withPolicy {policy other : OnFailure} (h : policy.suppresses = other.suppresses) :
    (runner.withPolicy policy).account launcher block state =
      (runner.withPolicy other).account launcher block state := by
  have hmisuse : ∀ p, (runner.withPolicy p).misuse? block = runner.misuse? block := fun _ => rfl
  rw [account, account, hmisuse, hmisuse]
  cases runner.misuse? block with
  | some misuse => rfl
  | none => exact walk_withPolicy launcher runner h "" block.physicalLines state

theorem cuts_account {policy : OnFailure} (h : policy.suppresses = true) :
    Cuts ((runner.withPolicy policy).account launcher block state)
      ((runner.withPolicy .propagate).account launcher block state) := by
  have hmisuse : ∀ p, (runner.withPolicy p).misuse? block = runner.misuse? block := fun _ => rfl
  rw [account, account, hmisuse, hmisuse]
  cases runner.misuse? block with
  | some misuse => exact .whole rfl
  | none => exact cuts_walk runner launcher h "" block.physicalLines state

theorem isFailed_execute (h : runner.onFailure.suppresses = true) :
    (runner.execute launcher block state).isFailed = false := by
  cases hmisuse : runner.misuse? block with
  | some misuse =>
    rw [execute_of_misuse launcher hmisuse]
    rfl
  | none =>
    have hcourse : runner.Course launcher _ state
        (runner.walk launcher "" block.physicalLines state).unechoed :=
      runner.course_walkFrom launcher (.ofLines block.physicalLines) state
    have herrors := hcourse.isFailed_of_passed h fun error herror => by
      rw [Splitter.items_ofLines] at herror
      obtain ⟨line, rfl⟩ := Splitter.exists_line_of_mem_expected herror
      rfl
    rw [Trace.errors_unechoed] at herrors
    rw [execute_eq_account, account_of_accepted launcher hmisuse, Trace.ran_isFailed]
    cases hlist : (runner.walk launcher "" block.physicalLines state).errors with
    | nil => rfl
    | cons error errors => exact herrors error (by rw [hlist]; exact List.mem_cons_self)

end

/-- **Policies differ only in what they make of a failure.** All policies that pass over failures make the
same run: it echoes, launches and gives the same, and it does not end with a failure. Where it passes over
no failure, the run that failures end is the same. Else that run goes the same way up to the first launch
that fails, then ends with the line and the failure that are passed over there, and nothing follows. -/
theorem first_failure_cuts (runner : Runner) (launcher : Launcher σ) (block : Block) (state : σ)
    {policy : OnFailure} (hpolicy : policy ≠ .propagate) :
    let passing := runner.withPolicy policy
    let failing := runner.withPolicy .propagate
    let ran := passing.execute launcher block state
    let failures := ran.events.filterMap Event.failure?
    (∀ other, other ≠ .propagate →
      (runner.withPolicy other).execute launcher block state = ran ∧
        ∀ progress, runner.opens block = .ok progress →
          observed ((runner.withPolicy other).pulls launcher progress state) =
            observed (passing.pulls launcher progress state)) ∧
    ran.isFailed = false ∧
    (failures = [] → failing.execute launcher block state = ran ∧
      ∀ progress, runner.opens block = .ok progress →
        observed (failing.pulls launcher progress state) =
          observed (passing.pulls launcher progress state)) ∧
    ∀ line failure rest, failures = (line, failure) :: rest →
      ∃ before request spilled after,
        (∀ l f, .inl (.failed l f) ∉ before) ∧
        ((failing.execute launcher block state).events =
          before.filterMap Sum.getLeft? ++ [.launched request spilled]) ∧
        (failing.execute launcher block state).result = .error (.failed line failure) ∧
        ∀ progress, runner.opens block = .ok progress →
          observed (passing.pulls launcher progress state) =
            before ++ .inl (.launched request spilled) :: .inl (.failed line failure) :: after ∧
          observed (failing.pulls launcher progress state) =
            before ++ [.inl (.launched request spilled), .inr (.error (.failed line failure))] := by
  intro passing failing ran failures
  have hpasses := suppresses_of_ne hpolicy
  have hcuts := cuts_account runner launcher block state hpasses
  have hfailures : failures = (passing.account launcher block state).failures := by
    unfold failures ran
    rw [execute_eq_account]
    exact Trace.events_failures _
  refine ⟨fun other hother => ?_, isFailed_execute passing launcher block state hpasses,
    fun hnone => ?_, fun line failure rest hfirst => ?_⟩
  · have hsuppresses := (suppresses_of_ne hother).trans hpasses.symm
    exact runs_eq_of_account_eq passing launcher rfl
      (runner.account_withPolicy launcher block state hsuppresses)
  · exact runs_eq_of_account_eq passing launcher rfl (hcuts.of_no_failure (hfailures.symm.trans hnone))
  · obtain ⟨before, request, spilled, after, hbefore, hall, hcut, hevents, hresult⟩ :=
      hcuts.of_failure (hfailures.symm.trans hfirst)
    rw [execute_eq_account]
    refine ⟨before, request, spilled, after, hbefore, hevents, hresult, fun progress hprogress => ?_⟩
    rw [observed_eq_account passing launcher hprogress, observed_eq_account failing launcher hprogress]
    exact ⟨hall, hcut⟩

/-- The second of three lines fails. -/
theorem first_failure_cuts_second :
    let runner : Runner := { primitive := .checkCall, echo := .callback }
    let launcher : Launcher Nat := fun _ count =>
      (⟨.ok ⟨if count = 1 then 1 else 0, none, none⟩, .silent⟩, count + 1)
    let block : Block := .lines ["a", "b", "c"]
    let passing := (runner.withPolicy .ignore).execute launcher block 0
    let failing := (runner.withPolicy .propagate).execute launcher block 0
    passing.events.filterMap Event.failure? = [("b", .exit 1 none)] ∧
      passing.result = .ok [.status 0, .status 0] ∧ passing.isFailed = false ∧
      failing.result = .error (.failed "b" (.exit 1 none)) ∧
      (runner.withPolicy (.labelled "!")).execute launcher block 0 = passing := by
  intro runner launcher block passing failing
  obtain ⟨hothers, hpassed, -, hcut⟩ :=
    first_failure_cuts runner launcher block 0 (show OnFailure.ignore ≠ .propagate by decide)
  have hran : passing = ((runner.withPolicy .ignore).account launcher block 0).ran :=
    execute_eq_account _ _ _ _
  have hfailures : passing.events.filterMap Event.failure? = [("b", .exit 1 none)] := by
    rw [hran]
    rfl
  obtain ⟨before, request, spilled, after, -, -, hresult, -⟩ := hcut _ _ _ hfailures
  refine ⟨hfailures, ?_, hpassed, hresult, (hothers (.labelled "!") (by decide)).1⟩
  rw [hran]
  rfl

end Runbook.Runner
