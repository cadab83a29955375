import Runbook.Proofs.Run.Opening

/-!
# Blocks one behind the other

Lines whose last one does not go on can be run, cut and planned apart from the lines behind them.

* `walk_append`: nothing is left in the buffer behind such lines, so the walk over both is the walk over
  the first and then, unless that stops, the walk over the second.
* `expected_append`: the splitter gives the items of both, unless an error ends the first.
* `execute_append`: a run, the logical lines and a plan of both are put together of those of each.
-/

namespace Runbook

open Line (breaks continues hidesContinuation joins)

/-- What a second run does behind a first one, unless that ended with an error. -/
def Ran.andThen {σ : Type} (ran : Ran σ) (next : σ → Ran σ) : Ran σ :=
  match ran.result with
  | .error _ => ran
  | .ok completions =>
    let rest := next ran.state
    ⟨ran.events ++ rest.events, (completions ++ ·) <$> rest.result, rest.state⟩

/-! ## Items -/

section

variable {ε α : Type}

theorem collect_append (items others : List (Except ε α)) :
    collect (items ++ others) = do return (← collect items) ++ (← collect others) := by
  induction items with
  | nil =>
    cases h : collect others <;> simp [collect, h, bind, Except.bind, pure, Except.pure]
  | cons item items ih =>
    cases item with
    | error error => rfl
    | ok a =>
      rw [List.cons_append, collect, collect, ih]
      cases collect items with
      | error error => rfl
      | ok as => cases collect others <;> rfl

theorem collect_append_of_ok {items : List (Except ε α)} {as : List α} (h : collect items = .ok as)
    (others : List (Except ε α)) : collect (items ++ others) = (as ++ ·) <$> collect others := by
  rw [collect_append, h]
  cases collect others <;> rfl

/-- What stands behind an error does not count. -/
theorem collect_append_of_error {items : List (Except ε α)} {error : ε} (h : .error error ∈ items)
    (others : List (Except ε α)) : collect (items ++ others) = collect items := by
  induction items with
  | nil => cases h
  | cons item items ih =>
    cases item with
    | error error => rfl
    | ok a =>
      have hrest : .error error ∈ items := (List.mem_cons.mp h).resolve_left (fun heq => nomatch heq)
      rw [List.cons_append, collect, collect, ih hrest]

end

namespace Splitter

/-- Lines whose last one does not go on keep nothing back: the items of the lines behind them follow,
unless an error comes first. -/
theorem expected_append {lines : List String}
    (h : ∀ last, lines.getLast? = some last → continues last = false) (rest : List String) :
    expected (lines ++ rest) = expected lines ++ expected rest ∨
      (∃ error, .error error ∈ expected lines) ∧ expected (lines ++ rest) = expected lines := by
  induction lines using Line.cut_induction joins with
  | all lines hjoins =>
    cases hlast : lines.getLast? with
    | none =>
      rw [List.getLast?_eq_none_iff.mp hlast]
      exact .inl rfl
    | some last =>
      have hcontinues := Line.continues_of_joins (hjoins last (List.mem_of_getLast? hlast))
      rw [h last hlast] at hcontinues
      cases hcontinues
  | cut before line after hjoins hline ih =>
    have hafter : ∀ last, after.getLast? = some last → continues last = false := fun last hlast =>
      h last (by simp [List.getLast?_append, List.getLast?_cons, hlast])
    rw [List.append_assoc, List.cons_append]
    rcases Line.joins_eq_false_iff.mp hline with hclosed | hhides
    · rw [expected_closed hjoins hclosed, expected_closed hjoins hclosed]
      rcases ih hafter with hboth | ⟨⟨error, herror⟩, hfirst⟩
      · exact .inl (by rw [hboth, List.append_assoc])
      · exact .inr ⟨⟨error, List.mem_append_right _ herror⟩, by rw [hfirst]⟩
    · rw [expected_hidden hjoins hhides, expected_hidden hjoins hhides]
      exact .inr ⟨⟨_, List.mem_singleton_self _⟩, rfl⟩

/-- For what is collected up to the first error it makes no difference that an error ends the first
items. -/
theorem collect_expected_append {β : Type} {lines : List String}
    (h : ∀ last, lines.getLast? = some last → continues last = false) (rest : List String)
    (give : Except Error String → List (Except Error β))
    (hgive : ∀ error, give (.error error) = [.error error]) :
    collect ((expected (lines ++ rest)).flatMap give) = do
      return (← collect ((expected lines).flatMap give)) ++ (← collect ((expected rest).flatMap give)) := by
  rw [← collect_append]
  rcases expected_append h rest with hboth | ⟨⟨error, herror⟩, hfirst⟩
  · rw [hboth, List.flatMap_append]
  · have hgiven : .error error ∈ (expected lines).flatMap give :=
      List.mem_flatMap.mpr ⟨_, herror, by rw [hgive]; exact List.mem_singleton_self _⟩
    rw [hfirst, collect_append_of_error hgiven]

end Splitter

namespace Runner

variable {σ : Type}

/-! ## Traces one behind the other -/

namespace Trace

theorem stops_after {steps : List Step} (h : steps.any Step.isStop = false) (trace : Trace σ) :
    (trace.after steps).stops = trace.stops := by
  rw [stops, after, List.any_append, h, Bool.false_or, stops]

theorem after_after (first second : List Step) (trace : Trace σ) :
    (trace.after second).after first = trace.after (first ++ second) := by
  rw [after, after, after, List.append_assoc]

theorem after_andThen {steps : List Step} (h : steps.any Step.isStop = false) (trace : Trace σ)
    (next : σ → Trace σ) : (trace.after steps).andThen next = (trace.andThen next).after steps := by
  unfold andThen
  rw [stops_after h]
  split_ifs
  · rfl
  · exact (after_after _ _ _).symm

theorem andThen_assoc (trace : Trace σ) (next last : σ → Trace σ) :
    (trace.andThen next).andThen last = trace.andThen fun state => (next state).andThen last := by
  cases h : trace.stops with
  | true => simp [andThen, h]
  | false =>
    have hgoes : ∀ rest : σ → Trace σ, trace.andThen rest = (rest trace.state).after trace.steps :=
      fun rest => by simp [andThen, h]
    rw [hgoes, hgoes, after_andThen h]

/-- The run that a trace tells, and what comes behind it. -/
theorem ran_andThen (trace : Trace σ) (next : σ → Trace σ) :
    (trace.andThen next).ran = trace.ran.andThen fun state => (next state).ran := by
  have hresult : trace.ran.result = _ := trace.ran_result
  cases h : trace.stops with
  | true =>
    have hstays : trace.andThen next = trace := by simp [andThen, h]
    cases herrors : trace.errors with
    | nil =>
      rw [(errors_eq_nil_iff trace).mp herrors] at h
      cases h
    | cons error errors =>
      rw [herrors] at hresult
      rw [hstays, Ran.andThen, hresult]
  | false =>
    have hgoes : trace.andThen next = (next trace.state).after trace.steps := by simp [andThen, h]
    rw [(errors_eq_nil_iff trace).mpr h] at hresult
    have hitems : collect trace.items = .ok (trace.completions.map (·.2)) := hresult
    rw [hgoes, Ran.andThen, hresult]
    dsimp only
    have hseen : ∀ rest : Trace σ, (rest.after trace.steps).ran =
        ⟨trace.events ++ rest.events, collect (trace.items ++ rest.items), rest.state⟩ := fun rest => by
      simp [ran, events, items, seen, after]
    rw [hseen, collect_append_of_ok hitems]
    rfl

end Trace

section

variable (runner : Runner) (launcher : Launcher σ)

/-- **Nothing is kept back** behind lines whose last one does not go on: the walk of the lines behind
them starts afresh. -/
theorem walk_append {lines : List String}
    (h : ∀ last, lines.getLast? = some last → continues last = false) {buffer : String}
    (hbuffer : lines = [] → buffer = "") (rest : List String) (state : σ) :
    runner.walk launcher buffer (lines ++ rest) state =
      (runner.walk launcher buffer lines state).andThen (runner.walk launcher "" rest) := by
  induction lines generalizing buffer state with
  | nil =>
    rw [hbuffer rfl]
    rfl
  | cons line lines ih =>
    have hlines : ∀ last, lines.getLast? = some last → continues last = false := fun last hlast =>
      h last (by simp [List.getLast?_cons, hlast])
    rw [List.cons_append, walk, walk, Trace.after_andThen (runner.isStop_echoSteps line)]
    congr 1
    cases hfragment : Line.fragment? line with
    | some fragment =>
      -- such a line is not the last one, so that the buffer is of no concern
      have hne : lines ≠ [] := by
        rintro rfl
        have hlast := h line rfl
        rw [← Line.fragment?_isSome, hfragment] at hlast
        cases hlast
      dsimp only
      split_ifs
      · exact ih hlines (fun heq => absurd heq hne) state
      · rfl
    | none =>
      dsimp only
      rw [Trace.andThen_assoc]
      congr 1
      funext next
      exact ih hlines (fun _ => rfl) next

end

/-! ## Blocks -/

/-- The account of lines one behind the other, where the last of the first ones does not go on. -/
theorem account_append (runner : Runner) (launcher : Launcher σ) {first second : List String}
    (hfirst : ∀ line ∈ first, ∀ c ∈ line.toList, c ∉ breaks)
    (hsecond : ∀ line ∈ second, ∀ c ∈ line.toList, c ∉ breaks)
    (hlast : ∀ last, first.getLast? = some last → continues last = false) (state : σ) :
    runner.account launcher (.lines (first ++ second)) state =
      (runner.account launcher (.lines first) state).andThen
        (runner.account launcher (.lines second)) := by
  have hboth : ∀ line ∈ first ++ second, ∀ c ∈ line.toList, c ∉ breaks := by
    intro line hline
    exact (List.mem_append.mp hline).elim (hfirst line) (hsecond line)
  have hmisuse := runner.misuse?_lines hfirst
  cases hvalid : runner.options.misuse? runner.primitive with
  | some misuse =>
    rw [account_of_misuse launcher ((runner.misuse?_lines hboth).trans hvalid),
      account_of_misuse launcher (hmisuse.trans hvalid)]
    rfl
  | none =>
    have hnext : runner.account launcher (.lines second) = runner.walk launcher "" second :=
      funext fun t => account_of_accepted launcher ((runner.misuse?_lines hsecond).trans hvalid) t
    rw [account_of_accepted launcher ((runner.misuse?_lines hboth).trans hvalid),
      account_of_accepted launcher (hmisuse.trans hvalid), hnext]
    exact walk_append runner launcher hlast (fun _ => rfl) second state

/-- The logical lines are the items up to the first error. -/
theorem logicalLines_lines {lines : List String} (h : ∀ line ∈ lines, ∀ c ∈ line.toList, c ∉ breaks) :
    (Block.lines lines).logicalLines = collect (Splitter.expected lines) := by
  rw [Block.logicalLines, Block.ofBlock_of_broken? (Block.broken?_eq_none_iff.mpr h)]
  exact congrArg collect (Splitter.items_ofLines lines)

/-- What an item of a splitter gives to a plan. -/
def planItem (runner : Runner) : Except Error String → List (Except Error Planned)
  | .error error => [.error error]
  | .ok line =>
    match runner.invocationFor line with
    | .error error => [.error error]
    | .ok none => []
    | .ok (some invocation) => [.ok ⟨line, invocation⟩]

/-- A plan collects what the items give. -/
theorem planItems_eq_collect (runner : Runner) (items : List (Except Error String)) :
    runner.planItems items = collect (items.flatMap runner.planItem) := by
  induction items with
  | nil => rfl
  | cons item items ih =>
    rw [List.flatMap_cons]
    cases item with
    | error error => rfl
    | ok line =>
      rw [planItems, planItem]
      cases runner.invocationFor line with
      | error error => rfl
      | ok invocation? =>
        cases invocation? with
        | none => exact ih
        | some invocation => exact congrArg ((⟨line, invocation⟩ :: ·) <$> ·) ih

/-- **Runs are put together of parts.** Where the last of some lines does not go on, a run of these lines
and of others behind them does what a run of the first does and then, unless that ended with an error,
what a run of the others does with the launcher as it was left: the same events in the same order, and the
first error or the completions of both. So are the logical lines and the plan put together. -/
theorem execute_append (runner : Runner) (launcher : Launcher σ) {first second : List String}
    (hfirst : ∀ line ∈ first, ∀ c ∈ line.toList, c ∉ breaks)
    (hsecond : ∀ line ∈ second, ∀ c ∈ line.toList, c ∉ breaks)
    (hlast : first = [] ∨ ∃ last, first.getLast? = some last ∧ continues last = false) (state : σ) :
    runner.execute launcher (.lines (first ++ second)) state =
        (runner.execute launcher (.lines first) state).andThen
          (runner.execute launcher (.lines second)) ∧
      (Block.lines (first ++ second)).logicalLines = (do
        return (← (Block.lines first).logicalLines) ++ (← (Block.lines second).logicalLines)) ∧
      runner.plan (.lines (first ++ second)) = (do
        return (← runner.plan (.lines first)) ++ (← runner.plan (.lines second))) := by
  have hends : ∀ last, first.getLast? = some last → continues last = false := by
    intro last h
    rcases hlast with rfl | ⟨line, hline, hcontinues⟩
    · cases h
    · rw [h] at hline
      rwa [Option.some.inj hline]
  have hboth : ∀ line ∈ first ++ second, ∀ c ∈ line.toList, c ∉ breaks := by
    intro line hline
    exact (List.mem_append.mp hline).elim (hfirst line) (hsecond line)
  refine ⟨?_, ?_, ?_⟩
  · have hnext : runner.execute launcher (.lines second) =
        fun t => (runner.account launcher (.lines second) t).ran :=
      funext (runner.execute_eq_account launcher _)
    rw [execute_eq_account, execute_eq_account, hnext, ← Trace.ran_andThen]
    exact congrArg Trace.ran (account_append runner launcher hfirst hsecond hends state)
  · have hlines := Splitter.collect_expected_append hends second (fun item => [item]) fun _ => rfl
    simp only [List.flatMap_singleton'] at hlines
    rw [logicalLines_lines hboth, logicalLines_lines hfirst, logicalLines_lines hsecond, hlines]
  · have hmisuse := runner.misuse?_lines hfirst
    cases hvalid : runner.options.misuse? runner.primitive with
    | some misuse =>
      rw [plan_of_misuse ((runner.misuse?_lines hboth).trans hvalid),
        plan_of_misuse (hmisuse.trans hvalid)]
      rfl
    | none =>
      rw [plan_of_accepted ((runner.misuse?_lines hboth).trans hvalid),
        plan_of_accepted (hmisuse.trans hvalid),
        plan_of_accepted ((runner.misuse?_lines hsecond).trans hvalid)]
      simp only [planItems_eq_collect]
      exact Splitter.collect_expected_append hends second runner.planItem fun _ => rfl

/-- A launch that fails and is passed over, and a comment, before the second part. -/
theorem execute_append_passedOver :
    let runner : Runner := { primitive := .checkCall, echo := .callback, onFailure := .ignore }
    let launcher : Launcher Nat := fun _ count =>
      (⟨.ok ⟨if count = 0 then 1 else 0, none, none⟩, .silent⟩, count + 1)
    let first := ["a \\", "b", "# c"]
    let second := ["", "d"]
    let both := runner.execute launcher (.lines (first ++ second)) 0
    first.getLast? = some "# c" ∧ continues "# c" = false ∧
      both.events = [.echoed "a \\", .echoed "b", .launched ⟨.argv ["a", "b"], {}, .nothing⟩ .silent,
        .failed "a b" (.exit 1 none), .echoed "# c", .echoed "", .echoed "d",
        .launched ⟨.argv ["d"], {}, .nothing⟩ .silent] ∧
      both.result = .ok [.status 0] ∧ both.state = 2 := by
  intro runner launcher first second both
  have hfirst : ∀ line ∈ first, ∀ c ∈ line.toList, c ∉ breaks := Block.broken?_eq_none_iff.mp (by rfl)
  have hsecond : ∀ line ∈ second, ∀ c ∈ line.toList, c ∉ breaks := Block.broken?_eq_none_iff.mp (by rfl)
  have hlast : continues "# c" = false := by rfl
  obtain ⟨hboth, -, -⟩ :=
    execute_append runner launcher hfirst hsecond (.inr ⟨"# c", rfl, hlast⟩) 0
  have hnext : runner.execute launcher (.lines second) =
      fun t => (runner.account launcher (.lines second) t).ran :=
    funext (runner.execute_eq_account launcher _)
  rw [runner.execute_eq_account launcher (.lines first), hnext] at hboth
  unfold both
  rw [hboth]
  exact ⟨rfl, hlast, by rfl, by rfl, by rfl⟩

end Runner

end Runbook
