import Runbook.Proofs.Line.Breaks
import Runbook.Proofs.Run.Simulation

/-!
# Requests that are refused

Before anything is read or launched, a runner looks whether the request makes sense.

* `misuse?` is the reason to refuse a block: a line that holds a break, or else options that the
  primitive cannot honour (`misuse?_eq_none_iff`).
* A refused block is neither planned nor run (`plan_of_misuse`, `execute_of_misuse`).
* `account` is the trace of a run from the request on; the run and its pulls tell just that
  (`execute_eq_account`, `observed_eq_account`), so that runners with one account run alike
  (`runs_eq_of_account_eq`).
-/

namespace Runbook

namespace Options

variable {options : Options} {primitive : Primitive}

theorem validate_eq_ok_iff : options.validate primitive = .ok () ↔ options.misuse? primitive = none := by
  rw [validate]
  cases options.misuse? primitive with
  | none => exact ⟨fun _ => rfl, fun _ => rfl⟩
  | some misuse => exact ⟨fun h => (nomatch h), fun h => (nomatch h)⟩

theorem validate_eq_error_iff {misuse : Misuse} :
    options.validate primitive = .error (.misuse misuse) ↔ options.misuse? primitive = some misuse := by
  rw [validate]
  cases options.misuse? primitive with
  | none => exact ⟨fun h => (nomatch h), fun h => (nomatch h)⟩
  | some other =>
    exact ⟨fun h => congrArg _ (Error.misuse.inj (Except.error.inj h)),
      fun h => congrArg _ (congrArg _ (Option.some.inj h))⟩

end Options

namespace Runner

open Line (breaks)

variable {σ : Type} (runner : Runner) (launcher : Launcher σ)

/-- The reason to refuse a block, if there is one. -/
def misuse? (block : Block) : Option Misuse :=
  (block.broken?.map .brokenLine).or (runner.options.misuse? runner.primitive)

/-- No reason is left when no given line holds a break and the options make sense. -/
theorem misuse?_eq_none_iff {block : Block} :
    runner.misuse? block = none ↔
      (∀ lines, block = .lines lines → ∀ line ∈ lines, ∀ c ∈ line.toList, c ∉ breaks) ∧
        runner.options.validate runner.primitive = .ok () := by
  rw [misuse?, Option.or_eq_none_iff, Option.map_eq_none_iff, Options.validate_eq_ok_iff]
  refine and_congr_left fun _ => ?_
  cases block with
  | text t => exact ⟨fun _ _ h => (nomatch h), fun _ => rfl⟩
  | lines ls =>
    rw [Block.broken?_eq_none_iff]
    exact ⟨fun h _ heq => Block.lines.inj heq ▸ h, fun h => h ls rfl⟩

theorem misuse?_ne_none_iff {block : Block} :
    runner.misuse? block ≠ none ↔
      (∃ lines, block = .lines lines ∧ ∃ line ∈ lines, ∃ c ∈ line.toList, c ∈ breaks) ∨
        runner.options.validate runner.primitive ≠ .ok () := by
  rw [Ne, misuse?_eq_none_iff, not_and_or]
  push Not
  rfl

theorem misuse?_lines {lines : List String} (h : ∀ line ∈ lines, ∀ c ∈ line.toList, c ∉ breaks) :
    runner.misuse? (.lines lines) = runner.options.misuse? runner.primitive := by
  rw [misuse?, Block.broken?_eq_none_iff.mpr h, Option.map_none, Option.none_or]

theorem splitter_eq (block : Block) :
    runner.splitter block =
      match runner.misuse? block with
      | some misuse => .error (.misuse misuse)
      | none => .ok (.ofLines block.physicalLines) := by
  rw [Runner.splitter, misuse?, Splitter.ofBlock, Options.validate]
  cases block.broken? with
  | some line => rfl
  | none => cases runner.options.misuse? runner.primitive <;> rfl

theorem opens_eq (block : Block) :
    runner.opens block =
      match runner.misuse? block with
      | some misuse => .error (.misuse misuse)
      | none => .ok ⟨.ofLines block.physicalLines, false⟩ := by
  rw [opens, splitter_eq]
  cases runner.misuse? block <;> rfl

theorem opens_eq_error_iff {block : Block} {error : Error} :
    runner.opens block = .error error ↔
      ∃ misuse, runner.misuse? block = some misuse ∧ error = .misuse misuse := by
  rw [opens_eq]
  cases runner.misuse? block <;> simp [eq_comm]

section

variable {runner} {block : Block}

theorem plan_of_misuse {misuse : Misuse} (h : runner.misuse? block = some misuse) :
    runner.plan block = .error (.misuse misuse) := by
  rw [plan, splitter_eq, h]
  rfl

theorem plan_of_accepted (h : runner.misuse? block = none) :
    runner.plan block = runner.planItems (Splitter.expected block.physicalLines) := by
  rw [plan, splitter_eq, h, ← Splitter.items_ofLines]
  rfl

end

/-- All that happens when a block is run: it is refused, or its lines are walked through. -/
def account (block : Block) (state : σ) : Trace σ :=
  match runner.misuse? block with
  | some misuse => ⟨[.stopped (.misuse misuse)], state⟩
  | none => runner.walk launcher "" block.physicalLines state

section

variable {runner} {block : Block}

theorem account_of_misuse {misuse : Misuse} (h : runner.misuse? block = some misuse) (state : σ) :
    runner.account launcher block state = ⟨[.stopped (.misuse misuse)], state⟩ := by
  rw [account, h]

theorem account_of_accepted (h : runner.misuse? block = none) (state : σ) :
    runner.account launcher block state = runner.walk launcher "" block.physicalLines state := by
  rw [account, h]

theorem execute_of_misuse {misuse : Misuse} (h : runner.misuse? block = some misuse) (state : σ) :
    runner.execute launcher block state = ⟨[], .error (.misuse misuse), state⟩ := by
  exact runner.execute_of_opens_error (by rw [opens_eq, h]) launcher state

end

/-- A run does what the account of it tells. -/
theorem execute_eq_account (block : Block) (state : σ) :
    runner.execute launcher block state = (runner.account launcher block state).ran := by
  cases h : runner.misuse? block with
  | some misuse =>
    rw [execute_of_misuse launcher h, account_of_misuse launcher h]
    rfl
  | none =>
    have hopens : runner.opens block = .ok ⟨.ofLines block.physicalLines, false⟩ := by rw [opens_eq, h]
    rw [account_of_accepted launcher h]
    exact execute_eq_ran hopens launcher state

/-- All pulls of an opened run tell the account of it. -/
theorem observed_eq_account {block : Block} {progress : Progress}
    (h : runner.opens block = .ok progress) (state : σ) :
    observed (runner.pulls launcher progress state) = (runner.account launcher block state).seen := by
  rw [opens_eq] at h
  cases hmisuse : runner.misuse? block with
  | some misuse =>
    rw [hmisuse] at h
    cases h
  | none =>
    rw [hmisuse] at h
    rw [account_of_accepted launcher hmisuse, ← Except.ok.inj h]
    exact (runner.tells_walkFrom launcher (.ofLines block.physicalLines) state).seen

/-- Runners with the same account of a block run it alike. -/
theorem runs_eq_of_account_eq {other : Runner} {block : Block} {state : σ}
    (hopens : other.opens block = runner.opens block)
    (h : other.account launcher block state = runner.account launcher block state) :
    other.execute launcher block state = runner.execute launcher block state ∧
      ∀ progress, runner.opens block = .ok progress →
        observed (other.pulls launcher progress state) =
          observed (runner.pulls launcher progress state) := by
  refine ⟨?_, fun progress hprogress => ?_⟩
  · rw [execute_eq_account, execute_eq_account, h]
  · rw [observed_eq_account _ _ hprogress, observed_eq_account _ _ (hopens.trans hprogress), h]

end Runner

end Runbook
