import Runbook.Proofs.Run.Planning

/-!
# Runs as attempts

What a run does depends on the invocations of its plan alone, and not on the lines that they come from.

* `attempt` launches invocations one after the other. An `Attempt` keeps the whole reply of the launcher,
  which a run does not tell; a failure that is not passed over ends the row.
* A `Deed` is what is seen of a run if lines are left out: launches, and what becomes of them.
* `Course.carries`: the deeds of a run, its completions and its end are those of the attempts at its
  draft; by induction on the course.
* `runs_alike`: blocks with the same plan but for the lines run alike, at once and pull by pull.
-/

namespace Runbook

/-- The launch that an event tells, and what it wrote to the streams of the runner. -/
def Event.launch? : Event → Option (Request × Streams)
  | .launched request spilled => some (request, spilled)
  | _ => none

/-- The failure of a launch, if the error is one. -/
def Error.failure? : Error → Option Failure
  | .failed _ failure => some failure
  | _ => none

namespace Runner

variable {σ : Type}

/-! ## Attempts -/

/-- One launch: what was asked for, the reply, and what it was judged to be. -/
structure Attempt where
  request : Request
  launched : Launched
  result : Except Failure Completion

/-- Attempts one after the other, the failure that ended them, and the launcher as they left it. -/
structure Attempted (σ : Type) where
  attempts : List Attempt
  ending : Option Failure
  state : σ

/-- What came of those attempts that did not fail. -/
def Attempted.completions (attempted : Attempted σ) : List Completion :=
  attempted.attempts.filterMap (·.result.toOption)

/-- One more attempt in front. -/
def Attempted.after (attempt : Attempt) (attempted : Attempted σ) : Attempted σ :=
  { attempted with attempts := attempt :: attempted.attempts }

/-- Launches invocations one after the other. -/
def attempt (runner : Runner) (launcher : Launcher σ) : List Invocation → σ → Attempted σ
  | [], state => ⟨[], none, state⟩
  | invocation :: invocations, state =>
    let request := runner.primitive.request runner.options invocation
    let (launched, next) := launcher request state
    let result := runner.primitive.judge runner.options runner.encoding invocation launched.outcome
    match result with
    | .ok _ => (runner.attempt launcher invocations next).after ⟨request, launched, result⟩
    | .error failure =>
      if runner.onFailure.suppresses then
        (runner.attempt launcher invocations next).after ⟨request, launched, result⟩
      else ⟨[⟨request, launched, result⟩], some failure, next⟩

/-- How an attempt is made: the request, the reply to it, and how that is judged. -/
structure Attempt.Made (runner : Runner) (launcher : Launcher σ) (attempt : Attempt)
    (invocation : Invocation) (state : σ) : Prop where
  request : attempt.request = runner.primitive.request runner.options invocation
  launched : attempt.launched = (launcher attempt.request state).1
  result : attempt.result =
    runner.primitive.judge runner.options runner.encoding invocation attempt.launched.outcome

theorem made_of_mem_attempt {runner : Runner} {launcher : Launcher σ} {invocations : List Invocation}
    {state : σ} {made : Attempt} (h : made ∈ (runner.attempt launcher invocations state).attempts) :
    ∃ invocation before, made.Made runner launcher invocation before := by
  induction invocations generalizing state with
  | nil => cases h
  | cons invocation invocations ih =>
    rw [attempt] at h
    dsimp only at h
    split at h
    · rename_i completion hresult
      rcases List.mem_cons.mp h with rfl | h
      · exact ⟨invocation, state, rfl, rfl, rfl⟩
      · exact ih h
    · rename_i failure hresult
      split_ifs at h
      · rcases List.mem_cons.mp h with rfl | h
        · exact ⟨invocation, state, rfl, rfl, rfl⟩
        · exact ih h
      · obtain rfl := List.mem_singleton.mp h
        exact ⟨invocation, state, rfl, rfl, rfl⟩

/-! ## Deeds -/

/-- What is seen of a run if its lines are left out. -/
inductive Deed where
  | launched (request : Request) (spilled : Streams)
  | came (result : Except Failure Completion)

/-- What is seen of an attempt. -/
def Attempt.deeds (attempt : Attempt) : List Deed :=
  [.launched attempt.request attempt.launched.spilled, .came attempt.result]

/-- The deed in what a pull tells. An error that is not the failure of a launch is none. -/
def deed? : Event ⊕ Except Error Completion → Option Deed
  | .inl (.echoed _) => none
  | .inl (.launched request spilled) => some (.launched request spilled)
  | .inl (.failed _ failure) => some (.came (.error failure))
  | .inr (.ok completion) => some (.came (.ok completion))
  | .inr (.error error) => error.failure?.map fun failure => .came (.error failure)

/-- The launch of a deed. -/
def Deed.launch? : Deed → Option (Request × Streams)
  | launched request spilled => some (request, spilled)
  | came _ => none

/-- The deeds of a trace. -/
def Trace.deeds (trace : Trace σ) : List Deed := trace.seen.filterMap deed?

theorem Trace.deeds_unechoed (trace : Trace σ) : trace.unechoed.deeds = trace.deeds := by
  unfold deeds seen
  rw [List.filterMap_map, List.filterMap_map]
  exact trace.filterMap_unechoed fun _ => rfl

/-- The launches among the events are those among the deeds. -/
theorem Trace.events_launches (trace : Trace σ) :
    trace.events.filterMap Event.launch? = trace.deeds.filterMap Deed.launch? := by
  rw [events, seen, deeds, seen, List.filterMap_map, List.filterMap_filterMap, List.filterMap_map,
    List.filterMap_filterMap]
  congr 1
  funext step
  cases step with
  | stopped error => cases error <;> rfl
  | _ => rfl

/-- A trace is made of attempts. -/
structure Trace.Carries (trace : Trace σ) (attempted : Attempted σ) : Prop where
  deeds : trace.deeds = attempted.attempts.flatMap Attempt.deeds
  completions : trace.completions.map (·.2) = attempted.completions
  ending : trace.errors.filterMap Error.failure? = attempted.ending.toList
  state : trace.state = attempted.state

variable {runner : Runner} {launcher : Launcher σ}

theorem attempt_of_launches {line : String} {state next : σ} {invocation : Invocation}
    {launched : Launched} {result : Except Failure Completion}
    (h : runner.Launches launcher line state invocation launched next result)
    (hgoes : result.isOk = true ∨ runner.onFailure.suppresses = true) (invocations : List Invocation) :
    runner.attempt launcher (invocation :: invocations) state =
      (runner.attempt launcher invocations next).after
        ⟨runner.primitive.request runner.options invocation, launched, result⟩ := by
  rw [attempt, h.reply]
  dsimp only
  rw [h.result]
  cases result with
  | ok completion => rfl
  | error failure =>
    rcases hgoes with hok | hpolicy
    · cases hok
    · simp only [hpolicy, if_true]

theorem attempt_of_failed {line : String} {state next : σ} {invocation : Invocation}
    {launched : Launched} {failure : Failure}
    (h : runner.Launches launcher line state invocation launched next (.error failure))
    (hpolicy : runner.onFailure.suppresses = false) (invocations : List Invocation) :
    runner.attempt launcher (invocation :: invocations) state =
      ⟨[⟨runner.primitive.request runner.options invocation, launched, .error failure⟩],
        some failure, next⟩ := by
  rw [attempt, h.reply]
  dsimp only
  rw [h.result]
  simp only [hpolicy, Bool.false_eq_true, if_false]

/-- A run that stops before the next launch. -/
theorem carries_stopped {error : Error} (h : error.isFailed = false) (state : σ) :
    Trace.Carries ⟨[.stopped error], state⟩ ⟨[], none, state⟩ := by
  have hnone : error.failure? = none := by
    cases error with
    | failed line failure => cases h
    | _ => rfl
  refine ⟨?_, rfl, ?_, rfl⟩
  · simp [Trace.deeds, Trace.seen, Step.seen, deed?, hnone]
  · simp [Trace.errors, Step.error?, hnone]

/-- One more launch that does not end the run. -/
theorem Trace.Carries.launch {trace : Trace σ} {attempted : Attempted σ} (h : trace.Carries attempted)
    {line : String} {invocation : Invocation} {launched : Launched} {step : Step}
    {result : Except Failure Completion} (hdeed : deed? step.seen = some (.came result))
    (hcompletion : step.completion?.map (·.2) = result.toOption) (herror : step.error? = none) :
    (trace.after [runner.launchStep line invocation launched, step]).Carries
      (attempted.after ⟨runner.primitive.request runner.options invocation, launched, result⟩) := by
  obtain ⟨hdeeds, hcompletions, hending, hstate⟩ := h
  refine ⟨?_, ?_, ?_, hstate⟩
  · have hlaunch : deed? (runner.launchStep line invocation launched).seen =
        some (.launched (runner.primitive.request runner.options invocation) launched.spilled) := rfl
    rw [Trace.deeds, Trace.seen_after, List.filterMap_append, ← Trace.deeds, hdeeds]
    simp only [List.map_cons, List.map_nil, List.filterMap_cons, hlaunch, hdeed, List.filterMap_nil]
    rfl
  · have hlaunch : (runner.launchStep line invocation launched).completion? = none := rfl
    rw [Attempted.completions, Attempted.after, List.filterMap_cons, ← hcompletion,
      ← Attempted.completions, ← hcompletions]
    simp only [Trace.completions, Trace.after, List.cons_append, List.nil_append, List.filterMap_cons,
      hlaunch]
    cases step.completion? <;> rfl
  · have hlaunch : (runner.launchStep line invocation launched).error? = none := rfl
    rw [Attempted.after, ← hending]
    simp only [Trace.errors, Trace.after, List.cons_append, List.nil_append, List.filterMap_cons,
      hlaunch, herror]

/-- **A run is made of attempts** at the invocations of its draft. -/
theorem Course.carries {items : List (Except Error String)} {state : σ} {trace : Trace σ}
    (h : runner.Course launcher items state trace)
    (hitems : ∀ error, .error error ∈ items → error.isFailed = false) :
    trace.Carries (runner.attempt launcher ((runner.draftItems items).entries.map (·.invocation)) state) := by
  induction h with
  | done => exact ⟨rfl, rfl, rfl, rfl⟩
  | broken error items state => exact carries_stopped (hitems error List.mem_cons_self) state
  | refused h items state =>
    rw [draftItems, h]
    exact carries_stopped (isFailed_of_invocationFor h) state
  | comment h _ ih =>
    rw [draftItems, h]
    exact ih fun error herror => hitems error (List.mem_cons_of_mem _ herror)
  | completed h _ ih =>
    rw [draftItems, h.line]
    dsimp only
    rw [List.map_cons, attempt_of_launches h (.inl rfl)]
    exact (ih fun error herror => hitems error (List.mem_cons_of_mem _ herror)).launch rfl rfl rfl
  | passedOver h hpolicy _ ih =>
    rw [draftItems, h.line]
    dsimp only
    rw [List.map_cons, attempt_of_launches h (.inr hpolicy)]
    exact (ih fun error herror => hitems error (List.mem_cons_of_mem _ herror)).launch rfl rfl rfl
  | failed h hpolicy items =>
    rw [draftItems, h.line]
    dsimp only
    rw [List.map_cons, attempt_of_failed h hpolicy]
    exact ⟨rfl, rfl, rfl, rfl⟩

theorem carries_of_unechoed {trace : Trace σ} {attempted : Attempted σ}
    (h : trace.unechoed.Carries attempted) : trace.Carries attempted := by
  obtain ⟨hdeeds, hcompletions, hending, hstate⟩ := h
  rw [Trace.deeds_unechoed] at hdeeds
  rw [Trace.completions_unechoed] at hcompletions
  rw [Trace.errors_unechoed] at hending
  exact ⟨hdeeds, hcompletions, hending, hstate⟩

/-- The attempts of a run: those at the invocations that its plan collects. -/
def attempted (runner : Runner) (launcher : Launcher σ) (block : Block) (state : σ) : Attempted σ :=
  runner.attempt launcher ((runner.draft block).entries.map (·.invocation)) state

theorem account_carries (runner : Runner) (launcher : Launcher σ) (block : Block) (state : σ) :
    (runner.account launcher block state).Carries (runner.attempted launcher block state) := by
  rw [attempted, draft, splitter_eq, account]
  cases runner.misuse? block with
  | some misuse => exact carries_stopped rfl state
  | none =>
    dsimp only
    have hcourse := runner.course_walkFrom launcher (.ofLines block.physicalLines) state
    refine carries_of_unechoed (hcourse.carries fun error herror => ?_)
    rw [Splitter.items_ofLines] at herror
    obtain ⟨line, rfl⟩ := Splitter.exists_line_of_mem_expected herror
    rfl

/-- The launches of a run are those of the attempts. -/
theorem execute_launches (runner : Runner) (launcher : Launcher σ) (block : Block) (state : σ) :
    (runner.execute launcher block state).events.filterMap Event.launch? =
      (runner.attempted launcher block state).attempts.map fun attempt =>
        (attempt.request, attempt.launched.spilled) := by
  rw [execute_eq_account]
  change (Trace.events _).filterMap _ = _
  rw [Trace.events_launches, (runner.account_carries launcher block state).deeds,
    List.filterMap_flatMap, List.map_eq_flatMap]
  rfl

/-- A run launches only what its primitive asks for, under options that make sense. -/
theorem request_of_launched {runner : Runner} {launcher : Launcher σ} {block : Block} {state : σ}
    {request : Request} {spilled : Streams}
    (h : .launched request spilled ∈ (runner.execute launcher block state).events) :
    runner.options.validate runner.primitive = .ok () ∧
      ∃ invocation, request = runner.primitive.request runner.options invocation := by
  constructor
  · cases hmisuse : runner.misuse? block with
    | some misuse =>
      rw [execute_of_misuse launcher hmisuse] at h
      cases h
    | none => exact (runner.misuse?_eq_none_iff.mp hmisuse).2
  · have hlaunch : (request, spilled) ∈
        (runner.execute launcher block state).events.filterMap Event.launch? :=
      List.mem_filterMap.mpr ⟨_, h, rfl⟩
    rw [execute_launches] at hlaunch
    obtain ⟨attempt, hattempt, hmade⟩ := List.mem_map.mp hlaunch
    obtain ⟨invocation, before, hhow⟩ := made_of_mem_attempt hattempt
    exact ⟨invocation, (congrArg Prod.fst hmade).symm.trans hhow.request⟩

/-- A run whose plan is complete ends with all completions or with the failure of a launch. -/
theorem result_of_plan {runner : Runner} {block : Block} {planned : List Planned}
    (h : runner.plan block = .ok planned) (launcher : Launcher σ) (state : σ) :
    let attempted := runner.attempt launcher (planned.map (·.invocation)) state
    let result := (runner.execute launcher block state).result
    (attempted.ending = none ∧ result = .ok attempted.completions) ∨
      ∃ line failure, attempted.ending = some failure ∧ result = .error (.failed line failure) := by
  intro attempted result
  rw [plan_eq_draft, Draft.plan_eq_ok_iff] at h
  obtain ⟨hcomplete, hentries⟩ := h
  have hcarries : (runner.account launcher block state).Carries attempted := by
    have hcarries := runner.account_carries launcher block state
    rwa [Runner.attempted, hentries] at hcarries
  have hresult : result = _ := congrArg Ran.result (runner.execute_eq_account launcher block state)
  have hending := hcarries.ending
  rw [Trace.ran_result, hcarries.completions] at hresult
  cases runner.account_agrees launcher block state with
  | whole hlaunches herrors =>
    rw [herrors, hcomplete] at hresult hending
    exact .inl ⟨Option.toList_eq_nil_iff.mp hending.symm, hresult⟩
  | cut before after last failure hpolicy hlaunches hentries herrors =>
    rw [herrors] at hresult hending
    refine .inr ⟨last.line, failure, ?_, hresult⟩
    cases hend : attempted.ending with
    | none =>
      rw [hend] at hending
      cases hending
    | some ending =>
      rw [hend] at hending
      rw [(List.cons.inj hending).1]

/-- Two runs are alike if lines are left out: the same launches with the same output in the same order,
the same state of the launcher behind them, and the same completions or the same failure. -/
structure Alike (ran other : Ran σ) : Prop where
  launches : other.events.filterMap Event.launch? = ran.events.filterMap Event.launch?
  state : other.state = ran.state
  result : (∃ completions, ran.result = .ok completions ∧ other.result = .ok completions) ∨
    ∃ line otherLine failure,
      ran.result = .error (.failed line failure) ∧ other.result = .error (.failed otherLine failure)

/-- **A run depends on the invocations of its plan alone**, whether all of it is run at once or pull by
pull. -/
theorem runs_alike {runner : Runner} {block other : Block} {planned others : List Planned}
    (hplan : runner.plan block = .ok planned) (hother : runner.plan other = .ok others)
    (hsame : others.map (·.invocation) = planned.map (·.invocation))
    (launcher : Launcher σ) (state : σ) :
    Alike (runner.execute launcher block state) (runner.execute launcher other state) ∧
      ∀ progress otherProgress, runner.opens block = .ok progress →
        runner.opens other = .ok otherProgress →
          (observed (runner.pulls launcher otherProgress state)).filterMap deed? =
            (observed (runner.pulls launcher progress state)).filterMap deed? := by
  have hattempted : runner.attempted launcher other state = runner.attempted launcher block state := by
    rw [plan_eq_draft, Draft.plan_eq_ok_iff] at hplan hother
    rw [attempted, attempted, hplan.2, hother.2, hsame]
  have hcarries := runner.account_carries launcher block state
  have hcarriesOther := runner.account_carries launcher other state
  rw [hattempted] at hcarriesOther
  have hdeeds : (runner.account launcher other state).deeds =
      (runner.account launcher block state).deeds := hcarriesOther.deeds.trans hcarries.deeds.symm
  refine ⟨⟨?_, ?_, ?_⟩, fun progress otherProgress h hopens => ?_⟩
  · rw [execute_eq_account, execute_eq_account]
    change (Trace.events _).filterMap _ = (Trace.events _).filterMap _
    rw [Trace.events_launches, Trace.events_launches, hdeeds]
  · rw [execute_eq_account, execute_eq_account]
    exact hcarriesOther.state.trans hcarries.state.symm
  · have hresult := result_of_plan hplan launcher state
    have hresultOther := result_of_plan hother launcher state
    rw [hsame] at hresultOther
    rcases hresult with ⟨hnone, hok⟩ | ⟨line, failure, hsome, herror⟩
    · rcases hresultOther with ⟨-, hokOther⟩ | ⟨line, failure, hsome, -⟩
      · exact .inl ⟨_, hok, hokOther⟩
      · rw [hnone] at hsome
        cases hsome
    · rcases hresultOther with ⟨hnone, -⟩ | ⟨otherLine, otherFailure, hsomeOther, herrorOther⟩
      · rw [hsome] at hnone
        cases hnone
      · rw [hsome] at hsomeOther
        obtain rfl := Option.some.inj hsomeOther
        exact .inr ⟨line, otherLine, failure, herror, herrorOther⟩
  · rw [observed_eq_account _ _ h, observed_eq_account _ _ hopens]
    exact hdeeds

end Runner

end Runbook
