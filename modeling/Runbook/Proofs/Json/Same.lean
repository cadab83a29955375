import Mathlib.Data.List.Nodup
import Runbook.Json.Value
import Runbook.Proofs.Number.Digits

/-!
# Values that are the same

JSON leaves the order of members open. `Same` relates values that differ in nothing else, at any depth.

* `Same.values`: objects that are the same have the same value under each name.
* `eq_of_same_ofText`, `eq_of_same_ofInt`, `eq_of_sameItems_map`: what is the same was written for the
  same text, number or list.
-/

namespace Runbook.Json

mutual

/-- Two values that are equal but for the order of members. -/
inductive Same : Json → Json → Prop
  | refl (value : Json) : Same value value
  | array {items others : List Json} (h : SameItems items others) : Same (.array items) (.array others)
  | object {members shuffled others : List (Option String × Json)} (hperm : members.Perm shuffled)
    (h : SameMembers shuffled others) : Same (.object members) (.object others)

/-- Items that are the same one by one. -/
inductive SameItems : List Json → List Json → Prop
  | nil : SameItems [] []
  | cons {item other : Json} {items others : List Json} (hitem : Same item other)
    (hitems : SameItems items others) : SameItems (item :: items) (other :: others)

/-- Members with the same names and values one by one. -/
inductive SameMembers : List (Option String × Json) → List (Option String × Json) → Prop
  | nil : SameMembers [] []
  | cons (name : Option String) {value other : Json} {members others : List (Option String × Json)}
    (hvalue : Same value other) (hmembers : SameMembers members others) :
    SameMembers ((name, value) :: members) ((name, other) :: others)

end

theorem SameMembers.exists_of_mem {members others : List (Option String × Json)}
    (h : SameMembers members others) {name : Option String} {value : Json}
    (hmem : (name, value) ∈ members) : ∃ other, (name, other) ∈ others ∧ Same value other := by
  induction members generalizing others with
  | nil => cases hmem
  | cons member members ih =>
    cases h with
    | @cons own first second _ rest hvalue hmembers =>
      rcases List.mem_cons.mp hmem with heq | hmem
      · obtain ⟨rfl, rfl⟩ := Prod.mk.inj heq
        exact ⟨second, List.mem_cons_self, hvalue⟩
      · obtain ⟨other, hother, hsame⟩ := ih hmembers hmem
        exact ⟨other, List.mem_cons_of_mem _ hother, hsame⟩

theorem Same.exists_of_mem {members others : List (Option String × Json)}
    (h : Same (.object members) (.object others)) {name : Option String} {value : Json}
    (hmem : (name, value) ∈ members) : ∃ other, (name, other) ∈ others ∧ Same value other := by
  cases h with
  | refl => exact ⟨value, hmem, .refl value⟩
  | object hperm hmembers => exact hmembers.exists_of_mem (hperm.mem_iff.mp hmem)

/-- Objects with unique names that are the same have the same value under each name. -/
theorem Same.values {members others : List (String × Json)}
    (h : Same (.ofMembers members) (.ofMembers others)) (hunique : (others.map (·.1)).Nodup)
    {name : String} {value other : Json} (hvalue : (name, value) ∈ members)
    (hother : (name, other) ∈ others) : Same value other := by
  obtain ⟨found, hfound, hsame⟩ := h.exists_of_mem (List.mem_map_of_mem hvalue)
  obtain ⟨own, hown, heq⟩ := List.mem_map.mp hfound
  obtain ⟨hname, rfl⟩ := Prod.mk.inj heq
  have hone : own = (name, other) :=
    List.inj_on_of_nodup_map hunique hown hother (Option.some.inj hname)
  rwa [hone] at hsame

theorem Same.items {items others : List Json} (h : Same (.array items) (.array others)) :
    SameItems items others := by
  cases h with
  | refl =>
    induction items with
    | nil => exact .nil
    | cons item items ih => exact .cons (.refl item) ih
  | array h => exact h

/-! ## What was written -/

theorem eq_of_same_ofText {a b : String} (h : Same (.ofText a) (.ofText b)) : a = b := by
  cases h
  rfl

theorem eq_of_same_ofInt {a b : Int} (h : Same (.ofInt a) (.ofInt b)) : a = b := by
  have htext : toString a = toString b := by
    generalize hother : Json.ofInt b = other at h
    cases h
    exact (Json.number.inj hother).symm
  exact Number.int_repr_injective htext

theorem eq_of_sameItems_map {α : Type} {write : α → Json}
    (hwrite : ∀ {a b}, Same (write a) (write b) → a = b) {as bs : List α}
    (h : SameItems (as.map write) (bs.map write)) : as = bs := by
  induction as generalizing bs with
  | nil =>
    cases bs with
    | nil => rfl
    | cons b bs => cases h
  | cons a as ih =>
    cases bs with
    | nil => cases h
    | cons b bs =>
      cases h with
      | cons hitem hitems => rw [hwrite hitem, ih hitems]

theorem eq_of_same_ofTexts {as bs : List String} (h : Same (.ofTexts as) (.ofTexts bs)) : as = bs :=
  eq_of_sameItems_map eq_of_same_ofText h.items

end Runbook.Json
