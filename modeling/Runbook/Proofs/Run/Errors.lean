import Runbook.Proofs.Run.Opening
import Runbook.Proofs.Run.Planning
import Runbook.Proofs.Run.Pulling

/-!
# Errors of a run

A request that makes no sense is refused before anything happens. Every other error comes in the middle
of a run; it is about a line, and it is the last that is heard of the run.

* `Ending` says what the splitter gave last when a pull of the run is over.
* `exists_ending`: each pull of a run, after any number of others, ends with such a pull of the splitter;
  what one pull does (`Advances.exists_ending`) goes on from pull to pull.
* `errors_of_runs`: which error is met when, and which line it is about.
-/

namespace Runbook.Runner

open Line (breaks)

variable {σ : Type} {runner : Runner} {launcher : Launcher σ}

/-! ## The pull of the splitter that ends a pull of the run -/

/-- What a pull of the run gives, by what the splitter gave last. -/
inductive Ending : Option (Except Error String) → Option (Except Error Completion) → Prop
  | ended : Ending none none
  | broken (error : Error) : Ending (some (.error error)) (some (.error error))
  | refused (line : String) (fault : Word.Fault) :
    Ending (some (.ok line)) (some (.error (.words line fault)))
  | completed (line : String) (completion : Completion) :
    Ending (some (.ok line)) (some (.ok completion))
  | failed (line : String) (failure : Failure) :
    Ending (some (.ok line)) (some (.error (.failed line failure)))

theorem Advances.exists_ending {splitter : Splitter} {state : σ} {pulled : Pulled σ}
    (h : runner.Advances launcher splitter state pulled) :
    ∃ m, pulled.progress.splitter = (splitter.nth m).next ∧ Ending (splitter.nth m).item pulled.item := by
  induction h with
  | ended h => exact ⟨0, rfl, by rw [Splitter.nth_zero, h]; exact .ended⟩
  | broken h => exact ⟨0, rfl, by rw [Splitter.nth_zero, h]; exact .broken _⟩
  | refused h hline =>
    obtain ⟨fault, rfl⟩ := exists_fault_of_invocationFor hline
    exact ⟨0, rfl, by rw [Splitter.nth_zero, h]; exact .refused _ fault⟩
  | comment h hline rest ih =>
    obtain ⟨m, hsplitter, hending⟩ := ih
    exact ⟨m + 1, by rw [Splitter.nth_succ]; exact ⟨hsplitter, hending⟩⟩
  | completed h hlaunch => exact ⟨0, rfl, by rw [Splitter.nth_zero, h]; exact .completed _ _⟩
  | passedOver h hlaunch hpolicy rest ih =>
    obtain ⟨m, hsplitter, hending⟩ := ih
    exact ⟨m + 1, by rw [Splitter.nth_succ]; exact ⟨hsplitter, hending⟩⟩
  | failed h hlaunch hpolicy => exact ⟨0, rfl, by rw [Splitter.nth_zero, h]; exact .failed _ _⟩

/-! ## Pulls one after the other -/

section

variable (runner launcher)

/-- The pull after `k` others. -/
def nth (progress : Progress) (state : σ) : Nat → Pulled σ
  | 0 => runner.pull launcher progress state
  | k + 1 => runner.pull launcher (nth progress state k).progress (nth progress state k).state

/-- The pull after `k` others has the splitter where one of its own pulls left it, and ends as that one
does, unless the run was over before. -/
theorem exists_ending (splitter : Splitter) (state : σ) (k : Nat) :
    let pulled := runner.nth launcher ⟨splitter, false⟩ state k
    ∃ m, pulled.progress.splitter = (splitter.nth m).next ∧
      (Ending (splitter.nth m).item pulled.item ∨ pulled.item = none) := by
  induction k with
  | zero =>
    obtain ⟨m, hsplitter, hending⟩ := (runner.advances launcher splitter state).exists_ending
    exact ⟨m, hsplitter, .inl hending⟩
  | succ k ih =>
    obtain ⟨m, hsplitter, -⟩ := ih
    simp only [nth]
    generalize runner.nth launcher ⟨splitter, false⟩ state k = before at hsplitter ⊢
    rcases runner.pull_finished_or_advances launcher before.progress before.state with
      hfinished | hadvances
    · rw [hfinished]
      exact ⟨m, hsplitter, .inr rfl⟩
    · obtain ⟨n, hnext, hending⟩ := hadvances.exists_ending
      rw [hsplitter, Splitter.nth_add] at hnext hending
      exact ⟨m + n + 1, hnext, .inl hending⟩

variable {runner launcher}

/-- Behind an error there is nothing more. -/
theorem nth_of_error {progress : Progress} {state : σ} {k : Nat} {error : Error}
    (h : (runner.nth launcher progress state k).item = some (.error error)) (j : Nat) :
    runner.nth launcher progress state (k + 1 + j) =
      ⟨[], none, (runner.nth launcher progress state k).progress,
        (runner.nth launcher progress state k).state⟩ := by
  have hfinished : (runner.nth launcher progress state k).progress.finished = true := by
    cases k with
    | zero => exact runner.finished_of_pull_error launcher h
    | succ k => exact runner.finished_of_pull_error launcher h
  induction j with
  | zero => rw [Nat.add_zero, nth, runner.pull_of_finished launcher hfinished]
  | succ j ih =>
    rw [← Nat.add_assoc, nth, ih]
    exact runner.pull_of_finished launcher hfinished _

/-- One error at most is met. -/
theorem eq_of_errors {progress : Progress} {state : σ} {j k : Nat} {error other : Error}
    (hk : (runner.nth launcher progress state k).item = some (.error error))
    (hj : (runner.nth launcher progress state j).item = some (.error other)) : j = k := by
  have hnot : ∀ {a b : Nat} {e e' : Error},
      (runner.nth launcher progress state a).item = some (.error e) →
      (runner.nth launcher progress state b).item = some (.error e') → ¬ a < b := by
    intro a b e e' ha hb hlt
    obtain ⟨d, rfl⟩ := Nat.exists_eq_add_of_lt hlt
    rw [Nat.add_right_comm, nth_of_error ha] at hb
    cases hb
  exact Nat.le_antisymm (Nat.le_of_not_lt (hnot hk hj)) (Nat.le_of_not_lt (hnot hj hk))

end

/-! ## Errors that are about a line -/

/-- The error of a pull is about a line as it stands, if that hides its continuation, or about the line
that the splitter gave last. -/
theorem exists_line_of_error {lines : List String} {state : σ} {k : Nat} {error : Error}
    (h : (runner.nth launcher ⟨.ofLines lines, false⟩ state k).item = some (.error error)) :
    ∃ line, error.line? = some line ∧
      (error = .hiddenContinuation line ∧ line ∈ lines ∨
        ((∃ fault, error = .words line fault) ∨ ∃ failure, error = .failed line failure) ∧
          ∃ m, ((Splitter.ofLines lines).nth m).item = some (.ok line) ∧
            (runner.nth launcher ⟨.ofLines lines, false⟩ state k).progress.splitter =
              ((Splitter.ofLines lines).nth m).next) := by
  obtain ⟨m, hsplitter, hending⟩ := runner.exists_ending launcher (.ofLines lines) state k
  have hgave : Ending ((Splitter.ofLines lines).nth m).item (some (.error error)) := by
    rw [h] at hending
    exact hending.resolve_right (Option.some_ne_none _)
  generalize hlast : ((Splitter.ofLines lines).nth m).item = last at hgave
  cases hgave with
  | broken =>
    rw [(Splitter.followsGroups lines).item] at hlast
    obtain ⟨line, hline, rfl⟩ := Splitter.mem_of_mem_expected (List.mem_of_getElem? hlast)
    exact ⟨line, rfl, .inl ⟨rfl, hline⟩⟩
  | refused line fault => exact ⟨line, rfl, .inr ⟨.inl ⟨fault, rfl⟩, m, hlast, hsplitter⟩⟩
  | failed line failure => exact ⟨line, rfl, .inr ⟨.inr ⟨failure, rfl⟩, m, hlast, hsplitter⟩⟩

/-- Items whose errors are about lines make a draft that ends with such an error. -/
theorem line?_of_draftItems {items : List (Except Error String)}
    (hitems : ∀ error, .error error ∈ items → error.line? ≠ none) {error : Error}
    (h : (runner.draftItems items).error? = some error) : error.line? ≠ none := by
  fun_induction runner.draftItems items with
  | case1 => cases h
  | case2 other items =>
    rw [← Option.some.inj h]
    exact hitems other List.mem_cons_self
  | case3 line items other hline =>
    obtain ⟨fault, rfl⟩ := exists_fault_of_invocationFor hline
    rw [← Option.some.inj h]
    exact Option.some_ne_none line
  | case4 line items hline ih => exact ih (fun e he => hitems e (List.mem_cons_of_mem _ he)) h
  | case5 line items invocation hline rest ih => exact ih (fun e he => hitems e (List.mem_cons_of_mem _ he)) h

section

variable {block : Block}

theorem line?_of_draft (h : runner.misuse? block = none) {error : Error}
    (herror : (runner.draft block).error? = some error) : error.line? ≠ none := by
  rw [draft, splitter_eq, h] at herror
  refine line?_of_draftItems (fun other hother => ?_) herror
  rw [Splitter.items_ofLines] at hother
  obtain ⟨line, rfl⟩ := Splitter.exists_line_of_mem_expected hother
  exact Option.some_ne_none line

/-- Where a block is not refused, the error of a run is about a line. -/
theorem line?_of_execute (h : runner.misuse? block = none) {state : σ} {error : Error}
    (herror : (runner.execute launcher block state).result = .error error) : error.line? ≠ none := by
  obtain ⟨trace, hran, hagrees⟩ := exists_agrees runner launcher block state
  have hresult : trace.ran.result = _ := trace.ran_result
  rw [hran, hresult] at herror
  cases hagrees with
  | whole hlaunches herrors =>
    rw [herrors] at herror
    cases hend : (runner.draft block).error? with
    | none =>
      rw [hend] at herror
      cases herror
    | some other =>
      rw [hend] at herror
      rw [← Except.error.inj herror]
      exact line?_of_draft h hend
  | cut before after last failure hpolicy hlaunches hentries herrors =>
    rw [herrors] at herror
    rw [← Except.error.inj herror]
    exact Option.some_ne_none _

/-- Nothing but the reason to refuse a block is a misuse, in a plan and in a run. -/
theorem misuse?_of_plan {misuse : Misuse} (h : runner.plan block = .error (.misuse misuse)) :
    runner.misuse? block = some misuse := by
  cases hmisuse : runner.misuse? block with
  | none =>
    rw [plan_eq_draft] at h
    exact absurd rfl (line?_of_draft hmisuse (Draft.plan_eq_error_iff.mp h))
  | some other =>
    rw [plan_of_misuse hmisuse] at h
    rw [Error.misuse.inj (Except.error.inj h)]

theorem misuse?_of_execute {misuse : Misuse} {state : σ}
    (h : (runner.execute launcher block state).result = .error (.misuse misuse)) :
    runner.misuse? block = some misuse := by
  cases hmisuse : runner.misuse? block with
  | none => exact absurd rfl (line?_of_execute hmisuse h)
  | some other =>
    rw [execute_of_misuse launcher hmisuse] at h
    rw [Error.misuse.inj (Except.error.inj h)]

end

/-- **Misuse comes first and alone, and every other error is about a line.** A block is refused exactly
if a given line holds a break or the options make no sense for the primitive; then opening, planning and
running it give the same error, and nothing happens. Else the pulls of the run, any number of them, meet
one error at most, and behind it nothing is given and nothing happens. It is about a physical line of the
block as it stands, if that hides its continuation, or else about the logical line that the splitter gave
last. -/
theorem errors_of_runs (runner : Runner) (launcher : Launcher σ) (block : Block) (state : σ) :
    ((∃ error, runner.opens block = .error error) ↔
      (∃ lines, block = .lines lines ∧ ∃ line ∈ lines, ∃ c ∈ line.toList, c ∈ breaks) ∨
        runner.options.validate runner.primitive ≠ .ok ()) ∧
    (∀ error, runner.opens block = .error error → (∃ misuse, error = .misuse misuse) ∧
      runner.plan block = .error error ∧
      runner.execute launcher block state = ⟨[], .error error, state⟩) ∧
    (∀ misuse, (runner.plan block = .error (.misuse misuse) →
        runner.opens block = .error (.misuse misuse)) ∧
      ((runner.execute launcher block state).result = .error (.misuse misuse) →
        runner.opens block = .error (.misuse misuse))) ∧
    ∀ progress, runner.opens block = .ok progress → ∀ k error,
      let pulled := runner.nth launcher progress state k
      pulled.item = some (.error error) →
        (∀ j, k < j → runner.nth launcher progress state j = ⟨[], none, pulled.progress, pulled.state⟩) ∧
        (∀ j other, (runner.nth launcher progress state j).item = some (.error other) → j = k) ∧
        ∃ line, error.line? = some line ∧
          (error = .hiddenContinuation line ∧ line ∈ block.physicalLines ∨
            ((∃ fault, error = .words line fault) ∨ ∃ failure, error = .failed line failure) ∧
              ∃ m, (progress.splitter.nth m).item = some (.ok line) ∧
                pulled.progress.splitter = (progress.splitter.nth m).next) := by
  refine ⟨?_, fun error herror => ?_, fun misuse => ⟨fun hplan => ?_, fun hrun => ?_⟩,
    fun progress hprogress k error => ?_⟩
  · rw [← runner.misuse?_ne_none_iff, Option.ne_none_iff_exists']
    simp only [opens_eq_error_iff]
    exact ⟨fun ⟨_, misuse, hmisuse, _⟩ => ⟨misuse, hmisuse⟩,
      fun ⟨misuse, hmisuse⟩ => ⟨_, misuse, hmisuse, rfl⟩⟩
  · obtain ⟨misuse, hmisuse, rfl⟩ := runner.opens_eq_error_iff.mp herror
    exact ⟨⟨misuse, rfl⟩, plan_of_misuse hmisuse, execute_of_misuse launcher hmisuse state⟩
  · exact runner.opens_eq_error_iff.mpr ⟨misuse, misuse?_of_plan hplan, rfl⟩
  · exact runner.opens_eq_error_iff.mpr ⟨misuse, misuse?_of_execute hrun, rfl⟩
  · obtain rfl := eq_of_opens hprogress
    intro pulled hitem
    refine ⟨fun j hj => ?_, fun j other hother => eq_of_errors hitem hother, exists_line_of_error hitem⟩
    obtain ⟨d, rfl⟩ := Nat.exists_eq_add_of_lt hj
    rw [Nat.add_right_comm]
    exact nth_of_error hitem d

/-- A comment is left behind, and the line behind it gives no words. -/
theorem errors_of_runs_unbalanced :
    let runner : Runner := { primitive := .call, onFailure := .ignore }
    let launcher : Launcher Nat := fun _ count => (⟨.ok ⟨0, none, none⟩, .silent⟩, count + 1)
    let progress : Progress := ⟨.ofLines ["# a", "b \"", "c"], false⟩
    runner.opens (.text "# a\nb \"\nc") = .ok progress ∧
      (runner.nth launcher progress 0 0).item = some (.error (.words "b \"" .unbalanced)) ∧
      (runner.nth launcher progress 0 1).item = none ∧
      (runner.nth launcher progress 0 1).events = [] := by
  intro runner launcher progress
  have hopens : runner.opens (.text "# a\nb \"\nc") = .ok progress := by rfl
  have hcomment : runner.advance launcher (.ofLines ["# a", "b \"", "c"]) 0 =
      (runner.advance launcher (.ofLines ["b \"", "c"]) 0).after [] := by
    rw [advance_eq_resume]
    rfl
  have hitem : (runner.nth launcher progress 0 0).item = some (.error (.words "b \"" .unbalanced)) := by
    change (runner.advance launcher (.ofLines ["# a", "b \"", "c"]) 0).item = _
    rw [hcomment, advance_eq_resume]
    rfl
  obtain ⟨-, -, -, herrors⟩ := errors_of_runs runner launcher (.text "# a\nb \"\nc") 0
  obtain ⟨hlater, -, -⟩ := herrors progress hopens 0 _ hitem
  rw [hlater 1 (by decide)]
  exact ⟨hopens, hitem, rfl, rfl⟩

end Runbook.Runner
