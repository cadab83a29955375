import Runbook.Proofs.Run.Course
import Runbook.Proofs.Run.Dialogue

/-!
# Pulls and the walk

Pulling a run until it is over tells exactly what the walk over the physical lines tells.

* `advance_eq_resume`: one pull of a run is one pull of the splitter, and then what `attend` says of the
  logical line; where that gives no completion and no error, the next pull of the splitter.
* `Tells` relates all pulls of a run to a trace: the same events and items in the same order, and the
  same state of the launcher at the end.
* `tells_walkFrom`: all pulls tell the walk of the lines that the splitter still has, also in the middle
  of a group; by induction from the last pull back.
* `execute_follows_walk`: the run of a block.
-/

namespace Runbook

variable {σ : Type}

namespace Pulled

/-- Events that happen before what a pull tells. -/
def after (events : List Event) (pulled : Pulled σ) : Pulled σ :=
  { pulled with events := events ++ pulled.events }

end Pulled

namespace Runner

variable (runner : Runner) (launcher : Launcher σ)

/-! ## One pull -/

namespace Turn

variable {bound : Nat} {β : Type} {turn : Turn bound} {ended : β} {failed : Error → β}
  {goesOn : Completion → (next : Progress) → remaining next < bound → β}

theorem onward_of_none (h : turn.item = none) : turn.onward ended failed goesOn = ended := by
  rw [onward]
  split
  · rfl
  · rename_i error herror
    cases h.symm.trans herror
  · rename_i completion hcompletion
    cases h.symm.trans hcompletion

theorem onward_of_error {error : Error} (h : turn.item = some (.error error)) :
    turn.onward ended failed goesOn = failed error := by
  rw [onward]
  split
  · rename_i hnone
    cases h.symm.trans hnone
  · rename_i other herror
    cases h.symm.trans herror
    rfl
  · rename_i completion hcompletion
    cases h.symm.trans hcompletion

theorem onward_of_ok {completion : Completion} (h : turn.item = some (.ok completion)) :
    turn.onward ended failed goesOn =
      goesOn completion turn.progress (turn.isLess (Option.isSome_of_mem h)) := by
  rw [onward]
  split
  · rename_i hnone
    cases h.symm.trans hnone
  · rename_i error herror
    cases h.symm.trans herror
  · rename_i other hcompletion
    cases h.symm.trans hcompletion
    rfl

end Turn

/-- A pull of a run that is not finished. -/
def advance (splitter : Splitter) (state : σ) : Pulled σ :=
  .ofTurn ((runner.turnFrom splitter (Nat.le_refl _)).run launcher state)

/-- The pull after which nothing more is pulled, with an error. -/
def fails (events : List Event) (error : Error) (splitter : Splitter) (state : σ) : Pulled σ :=
  ⟨events, some (.error error), ⟨splitter, true⟩, state⟩

/-- What a pull of a run makes of a pull of its splitter. -/
def resume (pull : Splitter.Pull) (state : σ) : Pulled σ :=
  match pull.item with
  | none => ⟨runner.echoes pull.saw, none, ⟨pull.next, false⟩, state⟩
  | some (.error error) => fails (runner.echoes pull.saw) error pull.next state
  | some (.ok line) =>
    let trace := runner.attend launcher line state
    match trace.items with
    | item :: _ =>
      ⟨runner.echoes pull.saw ++ trace.events, some item, ⟨pull.next, trace.stops⟩, trace.state⟩
    | [] =>
      (runner.advance launcher pull.next trace.state).after (runner.echoes pull.saw ++ trace.events)

theorem ofTurn_after {bound : Nat} (told : List Event) (transcript : Transcript Event (Turn bound) σ) :
    Pulled.ofTurn (transcript.after told) = (Pulled.ofTurn transcript).after told := rfl

/-- A turn does not depend on what it is measured by. -/
theorem ofTurn_turnFrom {bound : Nat} (splitter : Splitter) (h : splitter.remaining ≤ bound) (state : σ) :
    .ofTurn ((runner.turnFrom splitter h).run launcher state) =
      runner.resume launcher splitter.pull state := by
  induction splitter using Splitter.pull_induction generalizing bound state with
  | step splitter ih =>
    have hrest : ∀ {bound : Nat} {item} (hitem : splitter.pull.item = some item)
        (h : splitter.pull.next.remaining ≤ bound) (state : σ),
        .ofTurn ((runner.turnFrom splitter.pull.next h).run launcher state) =
          runner.advance launcher splitter.pull.next state := by
      intro bound item hitem h state
      rw [ih item hitem h, advance, ih item hitem (Nat.le_refl _)]
    rw [turnFrom, Dialogue.run_tellAll, ofTurn_after]
    split
    · rename_i hitem
      rw [resume, hitem]
      simp [Pulled.after, Pulled.ofTurn, Dialogue.run, Turn.ends]
    · rename_i item hitem
      cases item with
      | error error =>
        conv_rhs => rw [resume, hitem]
        simp [Pulled.after, Pulled.ofTurn, Dialogue.run, Turn.fails, fails]
      | ok line =>
        conv_rhs => rw [resume, hitem]
        dsimp only
        -- the words of the line, the reply and the policy decide together; `Attended` has a case for each
        have hattended := runner.attended launcher line state
        generalize runner.attend launcher line state = trace at hattended ⊢
        cases hattended with
        | refused h =>
          rw [h]
          simp [Pulled.after, Pulled.ofTurn, Dialogue.run, Turn.fails, Trace.items, Trace.events,
            Trace.seen, Trace.stops, Step.seen, Step.isStop]
        | comment h =>
          rw [h]
          dsimp only
          rw [hrest hitem]
          simp [Pulled.after, Trace.quiet, Trace.items, Trace.events, Trace.seen]
        | completed h =>
          rw [h.line]
          simp only [Dialogue.run, h.reply, h.result]
          rfl
        | passedOver h hpolicy =>
          rw [h.line]
          simp only [Dialogue.run, h.reply, h.result, hpolicy, if_true, ofTurn_after, hrest hitem]
          simp [launchStep, Pulled.after, Trace.items, Trace.events, Trace.seen, Step.seen,
            List.filterMap_cons]
        | failed h hpolicy =>
          rw [h.line]
          simp only [Dialogue.run, h.reply, h.result, hpolicy]
          rfl

theorem advance_eq_resume (splitter : Splitter) (state : σ) :
    runner.advance launcher splitter state = runner.resume launcher splitter.pull state :=
  runner.ofTurn_turnFrom launcher splitter _ state

theorem pull_of_finished {progress : Progress} (h : progress.finished = true) (state : σ) :
    runner.pull launcher progress state = ⟨[], none, progress, state⟩ := by
  rw [pull, turn, dif_pos h]
  rfl

theorem pull_of_unfinished {progress : Progress} (h : ¬progress.finished = true) (state : σ) :
    runner.pull launcher progress state = runner.advance launcher progress.splitter state := by
  rw [pull, turn, dif_neg h, ofTurn_turnFrom, advance_eq_resume]

/-- Behind an error nothing more is pulled. -/
theorem finished_of_error {splitter : Splitter} {state : σ} {error : Error}
    (h : (runner.advance launcher splitter state).item = some (.error error)) :
    (runner.advance launcher splitter state).progress.finished = true := by
  induction splitter using Splitter.pull_induction generalizing state with
  | step splitter ih =>
    rw [advance_eq_resume, resume] at h ⊢
    cases hitem : splitter.pull.item with
    | none =>
      rw [hitem] at h
      cases h
    | some item =>
      rw [hitem] at h
      cases item with
      | error error => rfl
      | ok line =>
        dsimp only at h ⊢
        have hattended := runner.attended launcher line state
        generalize runner.attend launcher line state = trace at hattended h ⊢
        cases hattended with
        | refused _ => rfl
        | comment _ => exact ih _ hitem h
        | completed _ => cases h
        | passedOver _ _ => exact ih _ hitem h
        | failed _ _ => rfl

theorem finished_of_pull_error {progress : Progress} {state : σ} {error : Error}
    (h : (runner.pull launcher progress state).item = some (.error error)) :
    (runner.pull launcher progress state).progress.finished = true := by
  by_cases hfinished : progress.finished = true
  · rw [runner.pull_of_finished launcher hfinished] at h
    cases h
  · rw [runner.pull_of_unfinished launcher hfinished] at h ⊢
    exact runner.finished_of_error launcher h

/-! ## All pulls -/

theorem pulls_of_none {progress : Progress} {state : σ}
    (h : (runner.pull launcher progress state).item = none) :
    runner.pulls launcher progress state = [runner.pull launcher progress state] := by
  rw [pulls]
  split
  · rename_i item hitem
    rw [h] at hitem
    cases hitem
  · rfl

theorem pulls_of_some {progress : Progress} {state : σ} {item : Except Error Completion}
    (h : (runner.pull launcher progress state).item = some item) :
    runner.pulls launcher progress state =
      runner.pull launcher progress state ::
        runner.pulls launcher (runner.pull launcher progress state).progress
          (runner.pull launcher progress state).state := by
  rw [pulls]
  split
  · rfl
  · rename_i hitem
    rw [h] at hitem
    cases hitem

theorem pulls_finished {progress : Progress} (h : progress.finished = true) (state : σ) :
    runner.pulls launcher progress state = [⟨[], none, progress, state⟩] := by
  have hpull := runner.pull_of_finished launcher h state
  have hpulls := runner.pulls_of_none launcher (congrArg Pulled.item hpull)
  rwa [hpull] at hpulls

/-- All that pulls tell, in order. -/
def observed (pulls : List (Pulled σ)) : List (Event ⊕ Except Error Completion) :=
  pulls.flatMap fun pulled => pulled.events.map .inl ++ pulled.item.toList.map .inr

/-- The state in which pulls leave the launcher. -/
def final (state : σ) (pulls : List (Pulled σ)) : σ :=
  pulls.foldl (fun _ pulled => pulled.state) state

/-- All pulls from here on tell this trace. -/
structure Tells (progress : Progress) (state : σ) (trace : Trace σ) : Prop where
  seen : observed (runner.pulls launcher progress state) = trace.seen
  state : final state (runner.pulls launcher progress state) = trace.state

variable {runner launcher}

theorem tells_finished {progress : Progress} (h : progress.finished = true) (state : σ) :
    runner.Tells launcher progress state (.quiet state) := by
  have hpulls := runner.pulls_finished launcher h state
  exact ⟨by rw [hpulls]; rfl, by rw [hpulls]; rfl⟩

theorem echoSteps_seen (lines : List String) :
    (lines.flatMap runner.echoSteps).map Step.seen = (runner.echoes lines).map .inl := by
  unfold echoes echoSteps
  split_ifs <;> simp [List.map_flatMap, Step.seen, ← List.map_eq_flatMap]

/-- Events before the next pull are told before all the rest. -/
theorem tells_after {a b : Progress} {s t : σ} {steps : List Step} {events : List Event}
    {trace : Trace σ} (hpull : runner.pull launcher a s = (runner.pull launcher b t).after events)
    (hsteps : steps.map Step.seen = events.map .inl) (h : runner.Tells launcher b t trace) :
    runner.Tells launcher a s (trace.after steps) := by
  have hitem : (runner.pull launcher a s).item = (runner.pull launcher b t).item := by rw [hpull]; rfl
  obtain ⟨hseen, hstate⟩ := h
  cases hb : (runner.pull launcher b t).item with
  | none =>
    have ha := hitem.trans hb
    rw [pulls_of_none _ _ hb] at hseen hstate
    refine ⟨?_, ?_⟩
    · rw [pulls_of_none _ _ ha, hpull, Trace.seen_after, hsteps, ← hseen]
      simp [observed, Pulled.after]
    · rw [pulls_of_none _ _ ha, hpull]
      exact hstate
  | some item =>
    have ha := hitem.trans hb
    rw [pulls_of_some _ _ hb] at hseen hstate
    refine ⟨?_, ?_⟩
    · rw [pulls_of_some _ _ ha, hpull, Trace.seen_after, hsteps, ← hseen]
      simp [observed, Pulled.after]
    · rw [pulls_of_some _ _ ha, hpull]
      exact hstate

/-- A pull that gives something is told before all the rest. -/
theorem tells_item {progress next : Progress} {state t : σ} {steps : List Step} {events : List Event}
    {item : Except Error Completion} {trace : Trace σ}
    (hpull : runner.pull launcher progress state = ⟨events, some item, next, t⟩)
    (hsteps : steps.map Step.seen = events.map .inl ++ [.inr item])
    (h : runner.Tells launcher next t trace) :
    runner.Tells launcher progress state (trace.after steps) := by
  obtain ⟨hseen, hstate⟩ := h
  have hpulls := runner.pulls_of_some launcher (congrArg Pulled.item hpull)
  rw [hpull] at hpulls
  refine ⟨?_, ?_⟩
  · rw [hpulls, Trace.seen_after, hsteps, ← hseen]
    rfl
  · rw [hpulls]
    exact hstate

/-- A line, and then what comes behind it: either it gives an item, or the pull goes on. -/
theorem tells_attend {progress : Progress} {state : σ} {saw : List String} {line : String}
    {next : Splitter} {rest : σ → Trace σ}
    (hpull : runner.pull launcher progress state =
      runner.resume launcher ⟨saw, some (.ok line), next⟩ state)
    (hrest : ∀ t, runner.Tells launcher ⟨next, false⟩ t (rest t)) :
    runner.Tells launcher progress state
      (((runner.attend launcher line state).andThen rest).after (saw.flatMap runner.echoSteps)) := by
  have hattend := runner.attend_seen launcher line state
  unfold resume at hpull
  dsimp only at hpull hattend
  generalize runner.attend launcher line state = trace at hpull hattend ⊢
  have hsteps : (saw.flatMap runner.echoSteps ++ trace.steps).map Step.seen =
      (runner.echoes saw ++ trace.events).map .inl ++ trace.items.head?.toList.map .inr := by
    rw [List.map_append, runner.echoSteps_seen, List.map_append, List.append_assoc, ← hattend]
    rfl
  cases hitems : trace.items with
  | nil =>
    rw [hitems] at hpull hsteps
    have hgoes : trace.andThen rest = .after trace.steps (rest trace.state) := by
      rw [Trace.andThen, Trace.stops_of_items_eq_nil hitems]
      rfl
    have hstep : runner.pull launcher progress state =
        (runner.pull launcher ⟨next, false⟩ trace.state).after (runner.echoes saw ++ trace.events) := by
      rw [hpull, runner.pull_of_unfinished launcher Bool.false_ne_true]
    have htells := tells_after hstep (hsteps.trans (List.append_nil _)) (hrest trace.state)
    rw [hgoes]
    simpa [Trace.after] using htells
  | cons item items =>
    rw [hitems] at hpull hsteps
    have hover : runner.Tells launcher ⟨next, trace.stops⟩ trace.state
        (if trace.stops then .quiet trace.state else rest trace.state) := by
      cases trace.stops
      · exact hrest trace.state
      · exact tells_finished rfl trace.state
    have htells := tells_item hpull hsteps hover
    unfold Trace.andThen
    split_ifs at htells ⊢ <;> simpa [Trace.after, Trace.quiet] using htells

/-- A pull of the run against a pull of its splitter. -/
theorem tells_follow {progress : Progress} {pull : Splitter.Pull} {state : σ} {rest : σ → Trace σ}
    (hpull : runner.pull launcher progress state = runner.resume launcher pull state)
    (hrest : ∀ item, pull.item = some item → ∀ t, runner.Tells launcher ⟨pull.next, false⟩ t (rest t)) :
    runner.Tells launcher progress state (runner.follow launcher pull rest state) := by
  obtain ⟨saw, item?, next⟩ := pull
  have hechoes := runner.echoSteps_seen saw
  cases item? with
  | none =>
    have hpulls := runner.pulls_of_none launcher (congrArg Pulled.item hpull)
    rw [hpull] at hpulls
    refine ⟨?_, by rw [hpulls]; rfl⟩
    rw [hpulls, follow, Trace.seen_after, hechoes]
    simp [observed, resume, Trace.quiet, Trace.seen]
  | some item =>
    cases item with
    | error error =>
      have hsteps : (saw.flatMap runner.echoSteps ++ [Step.stopped error]).map Step.seen =
          (runner.echoes saw).map .inl ++ [.inr (.error error)] := by
        rw [List.map_append, hechoes]
        rfl
      have htells := tells_item hpull hsteps (tells_finished rfl state)
      simpa [follow, Trace.after, Trace.quiet] using htells
    | ok line => exact tells_attend hpull (hrest _ rfl)

variable (runner launcher) in
/-- **All pulls of a run tell its walk.** -/
theorem tells_walkFrom (splitter : Splitter) (state : σ) :
    runner.Tells launcher ⟨splitter, false⟩ state (runner.walkFrom launcher splitter state) := by
  induction splitter using Splitter.pull_induction generalizing state with
  | step splitter ih =>
    rw [walkFrom_eq_follow]
    refine tells_follow ?_ ih
    rw [runner.pull_of_unfinished launcher Bool.false_ne_true, advance_eq_resume]

/-! ## The run of a block -/

theorem lefts_map_append {α β : Type} (as : List α) (bs : List β) :
    (as.map Sum.inl ++ bs.map Sum.inr).filterMap Sum.getLeft? = as := by
  rw [List.filterMap_append, List.filterMap_map, List.filterMap_map]
  exact (congrArg₂ _ List.filterMap_some (by simp)).trans (List.append_nil as)

theorem rights_map_append {α β : Type} (as : List α) (bs : List β) :
    (as.map Sum.inl ++ bs.map Sum.inr).filterMap Sum.getRight? = bs := by
  rw [List.filterMap_append, List.filterMap_map, List.filterMap_map]
  exact (congrArg₂ _ (by simp) List.filterMap_some).trans (List.nil_append bs)

theorem observed_events (pulls : List (Pulled σ)) :
    (observed pulls).filterMap Sum.getLeft? = pulls.flatMap (·.events) := by
  rw [observed, List.filterMap_flatMap]
  simp only [lefts_map_append]

theorem observed_items (pulls : List (Pulled σ)) :
    (observed pulls).filterMap Sum.getRight? = pulls.filterMap (·.item) := by
  rw [observed, List.filterMap_flatMap, List.filterMap_eq_flatMap_toList]
  simp only [rights_map_append]

/-- All turns are all pulls. Nothing is told behind an error, so that collecting up to the first error
loses nothing. -/
theorem run_turns (progress : Progress) (state : σ) :
    (runner.turns progress).run launcher state =
      ⟨(runner.pulls launcher progress state).flatMap (·.events),
        collect ((runner.pulls launcher progress state).filterMap (·.item)),
        final state (runner.pulls launcher progress state)⟩ := by
  fun_induction runner.pulls launcher progress state with
  | case1 progress state pulled item hitem ih =>
    rw [turns, Dialogue.run_bind]
    cases item with
    | error error =>
      rw [runner.pulls_finished launcher (runner.finished_of_pull_error launcher hitem)]
      dsimp only
      rw [Turn.onward_of_error hitem]
      change Transcript.mk (pulled.events ++ []) (Except.error error) pulled.state = _
      simp [hitem, final, collect]
    | ok completion =>
      dsimp only
      rw [Turn.onward_of_ok hitem, Dialogue.run_map]
      dsimp only
      have hrest :
          (runner.turns ((runner.turn progress).run launcher state).result.progress).run launcher
            ((runner.turn progress).run launcher state).state = _ := ih
      rw [hrest]
      change Transcript.mk (pulled.events ++ _) _ _ = _
      simp [hitem, final, collect]
  | case2 progress state pulled hitem =>
    rw [turns, Dialogue.run_bind]
    dsimp only
    rw [Turn.onward_of_none hitem]
    change Transcript.mk (pulled.events ++ []) (Except.ok []) pulled.state = _
    simp [hitem, final, collect]

theorem execute_of_opens {block : Block} {progress : Progress} (h : runner.opens block = .ok progress)
    (launcher : Launcher σ) (state : σ) :
    runner.execute launcher block state =
      ⟨(runner.pulls launcher progress state).flatMap (·.events),
        collect ((runner.pulls launcher progress state).filterMap (·.item)),
        final state (runner.pulls launcher progress state)⟩ := by
  rw [execute, dialogue, h]
  dsimp only
  rw [run_turns]

theorem execute_of_opens_error {block : Block} {error : Error} (h : runner.opens block = .error error)
    (launcher : Launcher σ) (state : σ) :
    runner.execute launcher block state = ⟨[], .error error, state⟩ := by
  rw [execute, dialogue, h]
  rfl

theorem eq_of_opens {block : Block} {progress : Progress} (h : runner.opens block = .ok progress) :
    progress = ⟨.ofLines block.physicalLines, false⟩ := by
  unfold opens Runner.splitter at h
  cases hsplitter : Splitter.ofBlock block with
  | error error => rw [hsplitter] at h; cases h
  | ok splitter =>
    rw [hsplitter] at h
    cases hvalid : runner.options.validate runner.primitive with
    | error error => simp only [hvalid] at h; cases h
    | ok =>
      simp only [hvalid] at h
      rw [← Splitter.eq_ofLines_of_ofBlock hsplitter]
      exact (Except.ok.inj h).symm

theorem execute_eq_ran {block : Block} {splitter : Splitter}
    (h : runner.opens block = .ok ⟨splitter, false⟩) (launcher : Launcher σ) (state : σ) :
    runner.execute launcher block state = (runner.walkFrom launcher splitter state).ran := by
  obtain ⟨hseen, hstate⟩ := runner.tells_walkFrom launcher splitter state
  rw [runner.execute_of_opens h, ← observed_events, ← observed_items, hseen, hstate]
  rfl

/-- **A run does what the walk over its physical lines tells**: the pulls up to the one that gives
nothing tell the same events, completions and error in the same order, and `execute` is the run that the
walk tells. So completions come in the order of the logical lines, and each launch comes to one
completion, one failure that is passed over, or the failure that ends the run. -/
theorem execute_follows_walk {block : Block} {progress : Progress}
    (h : runner.opens block = .ok progress) (launcher : Launcher σ) (state : σ) :
    let pulls := runner.pulls launcher progress state
    let walked := runner.walk launcher "" block.physicalLines state
    let ran := runner.execute launcher block state
    observed pulls = walked.seen ∧ final state pulls = walked.state ∧ ran = walked.ran ∧
      (pulls.filterMap (·.item)).filterMap Except.toOption = walked.completions.map (·.2) ∧
      (walked.completions.map (·.1)).Sublist (Line.texts (Line.readable block.physicalLines)) ∧
      (ran.events.filterMap Event.invocation?).length =
        walked.completions.length + (ran.events.filterMap Event.failure?).length +
          ran.isFailed.toNat := by
  intro pulls walked ran
  obtain rfl := eq_of_opens h
  have hran : ran = walked.ran := execute_eq_ran h launcher state
  obtain ⟨hseen, hstate⟩ := runner.tells_walkFrom launcher (.ofLines block.physicalLines) state
  have hcourse : runner.Course launcher _ state walked.unechoed :=
    runner.course_walkFrom launcher (.ofLines block.physicalLines) state
  rw [Splitter.items_ofLines] at hcourse
  refine ⟨hseen, hstate, hran, ?_, ?_, ?_⟩
  · rw [← observed_items, hseen]
    exact walked.items_completions
  · have hlines := hcourse.completions_sublist
    rwa [Trace.completions_unechoed, Splitter.expected_lines] at hlines
  · have hbalanced := hcourse.balanced fun error herror => by
      obtain ⟨line, rfl⟩ := Splitter.exists_line_of_mem_expected herror
      rfl
    rw [Trace.launches_unechoed, Trace.completions_unechoed, Trace.failures_unechoed,
      Trace.ran_isFailed, Trace.errors_unechoed, ← Trace.ran_isFailed] at hbalanced
    rw [hran]
    change (walked.events.filterMap Event.invocation?).length =
      walked.completions.length + (walked.events.filterMap Event.failure?).length + _
    rw [Trace.events_invocations, Trace.events_failures, List.length_map]
    exact hbalanced

/-- A comment, a line that goes on, and a launch that fails and is passed over. -/
theorem execute_follows_walk_passedOver :
    let runner : Runner := { primitive := .call, echo := .callback, onFailure := .ignore }
    let launcher : Launcher Nat := fun _ count =>
      (⟨if count = 0 then .error .noEntry else .ok ⟨0, none, none⟩, .silent⟩, count + 1)
    let block : Block := .lines ["# a", "b \\", "c", "d"]
    runner.opens block = .ok ⟨.ofLines block.physicalLines, false⟩ ∧
      (runner.execute launcher block 0).events =
        [.echoed "# a", .echoed "b \\", .echoed "c", .launched ⟨.argv ["b", "c"], {}, .nothing⟩ .silent,
          .failed "b c" (.launch "b" .noEntry), .echoed "d",
          .launched ⟨.argv ["d"], {}, .nothing⟩ .silent] ∧
      (runner.execute launcher block 0).result = .ok [.status 0] ∧
      (runner.execute launcher block 0).state = 2 := by
  intro runner launcher block
  have hopens : runner.opens block = .ok ⟨.ofLines block.physicalLines, false⟩ := by rfl
  obtain ⟨-, -, hran, -, -, -⟩ := execute_follows_walk hopens launcher 0
  rw [hran]
  exact ⟨hopens, by rfl, by rfl, by rfl⟩

end Runner

end Runbook
