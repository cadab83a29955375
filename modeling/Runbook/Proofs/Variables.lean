import Mathlib.Data.List.Basic
import Runbook.Variables

/-!
# Pairs over variables

`lastValue?` is what counts of pairs that are laid over variables. The pairs of variables name nothing
twice (`lastValue?_pairs`); so what is laid over variables once more changes nothing
(`overlay_of_subset`), and variables with the same values are the same (`eq_of_get?`).
-/

namespace Runbook

/-- The value in the last pair for a name. -/
def lastValue? (pairs : List (String × String)) (name : String) : Option String :=
  (pairs.reverse.find? (·.1 == name)).map (·.2)

variable {name value : String} {pairs : List (String × String)}

/-! ## The last pair -/

theorem lastValue?_cons (pair : String × String) :
    lastValue? (pair :: pairs) name =
      (lastValue? pairs name).or (if pair.1 = name then some pair.2 else none) := by
  rw [lastValue?, lastValue?, List.reverse_cons, List.find?_append, Option.map_or, List.find?_singleton]
  by_cases h : pair.1 = name <;> simp [h]

theorem lastValue?_append (others : List (String × String)) :
    lastValue? (pairs ++ others) name = (lastValue? others name).or (lastValue? pairs name) := by
  rw [lastValue?, List.reverse_append, List.find?_append, Option.map_or]
  rfl

/-- Names that are spelled in another way, each in its own. -/
theorem lastValue?_map {spell : String → String} (hspell : Function.Injective spell) :
    lastValue? (pairs.map fun pair => (spell pair.1, spell pair.2)) (spell name) =
      (lastValue? pairs name).map spell := by
  induction pairs with
  | nil => rfl
  | cons pair rest ih =>
    rw [List.map_cons, lastValue?_cons, ih, lastValue?_cons, Option.map_or]
    by_cases h : pair.1 = name
    · rw [if_pos h, h, if_pos rfl]
      rfl
    · rw [if_neg h, if_neg fun hsame => h (hspell hsame)]
      rfl

theorem mem_of_lastValue? (h : lastValue? pairs name = some value) : (name, value) ∈ pairs := by
  obtain ⟨pair, hfind, rfl⟩ := Option.map_eq_some_iff.mp h
  have hname : pair.1 = name := by simpa using List.find?_some hfind
  rw [← hname]
  exact List.mem_reverse.mp (List.mem_of_find?_eq_some hfind)

/-- Of pairs with distinct names, each is the last one for its name. -/
theorem lastValue?_eq_some_iff {name value : String} {pairs : List (String × String)}
    (h : (pairs.map (·.1)).Nodup) : lastValue? pairs name = some value ↔ (name, value) ∈ pairs := by
  refine ⟨mem_of_lastValue?, fun hmem => ?_⟩
  induction pairs with
  | nil => cases hmem
  | cons pair rest ih =>
    obtain ⟨hfirst, hrest⟩ := List.nodup_cons.mp h
    rw [lastValue?_cons]
    rcases List.mem_cons.mp hmem with rfl | hmem
    · have hnone : lastValue? rest name = none := by
        rw [Option.eq_none_iff_forall_ne_some]
        exact fun other hother => hfirst (List.mem_map.mpr ⟨_, mem_of_lastValue? hother, rfl⟩)
      rw [hnone, Option.none_or, if_pos rfl]
    · rw [ih hrest hmem, Option.some_or]

/-! ## Pairs with ascending names -/

theorem Ascending.find?_eq_some_iff (h : Ascending pairs) :
    pairs.find? (·.1 == name) = some (name, value) ↔ (name, value) ∈ pairs := by
  constructor
  · exact List.mem_of_find?_eq_some
  · intro hmem
    induction pairs with
    | nil => cases hmem
    | cons first rest ih =>
      obtain ⟨hfirst, hrest⟩ := List.pairwise_cons.mp h
      rcases List.mem_cons.mp hmem with rfl | hmem
      · exact List.find?_cons_of_pos (beq_self_eq_true name)
      · have hlt : first.1 < name := hfirst _ hmem
        have hne : first.1 ≠ name := fun heq => String.lt_irrefl name (heq ▸ hlt)
        rw [List.find?_cons_of_neg (by simpa using hne)]
        exact ih hrest hmem

theorem insertPair_of_mem (h : Ascending pairs) (hmem : (name, value) ∈ pairs) :
    insertPair name value pairs = pairs := by
  induction pairs with
  | nil => cases hmem
  | cons first rest ih =>
    obtain ⟨hfirst, hrest⟩ := List.pairwise_cons.mp h
    rw [insertPair]
    rcases List.mem_cons.mp hmem with rfl | hmem
    · rw [if_neg (String.lt_irrefl name), if_pos rfl]
    · have hlt : first.1 < name := hfirst _ hmem
      have hnot : ¬ name < first.1 := fun hless => String.lt_irrefl _ (String.lt_trans hless hlt)
      have hne : name ≠ first.1 := fun heq => String.lt_irrefl name (heq ▸ hlt)
      rw [if_neg hnot, if_neg hne, ih hrest hmem]

namespace Variables

variable {vars : Variables}

theorem get?_eq_some_iff : vars.get? name = some value ↔ (name, value) ∈ vars.pairs := by
  rw [get?, ← vars.ascending.find?_eq_some_iff]
  constructor
  · intro h
    obtain ⟨pair, hfind, rfl⟩ := Option.map_eq_some_iff.mp h
    have hname : pair.1 = name := by simpa using List.find?_some hfind
    rw [hfind, ← hname]
  · intro h
    rw [h, Option.map_some]

/-- Variables name nothing twice, so their first pair for a name is the last one. -/
theorem lastValue?_pairs (vars : Variables) (name : String) :
    lastValue? vars.pairs name = vars.get? name := by
  cases hlast : lastValue? vars.pairs name with
  | some value => exact (get?_eq_some_iff.mpr (mem_of_lastValue? hlast)).symm
  | none =>
    symm
    rw [get?, Option.map_eq_none_iff, List.find?_eq_none]
    rw [lastValue?, Option.map_eq_none_iff, List.find?_eq_none] at hlast
    exact fun pair hpair => hlast pair (List.mem_reverse.mpr hpair)

theorem overlay_append (others : List (String × String)) :
    vars.overlay (pairs ++ others) = (vars.overlay pairs).overlay others := List.foldl_append

theorem insert_of_mem (h : (name, value) ∈ vars.pairs) : vars.insert name value = vars := by
  obtain ⟨pairs, hascending⟩ := vars
  rw [insert]
  congr 1
  exact insertPair_of_mem hascending h

/-- Pairs that are there already change nothing. -/
theorem overlay_of_subset (h : ∀ pair ∈ pairs, pair ∈ vars.pairs) : vars.overlay pairs = vars := by
  induction pairs with
  | nil => rfl
  | cons pair rest ih =>
    have hstep : vars.overlay (pair :: rest) = (vars.insert pair.1 pair.2).overlay rest := rfl
    rw [hstep, insert_of_mem (h pair List.mem_cons_self)]
    exact ih fun other hother => h other (List.mem_cons_of_mem _ hother)

theorem eq_of_pairs {vars others : Variables} (h : vars.pairs = others.pairs) : vars = others := by
  obtain ⟨pairs, hpairs⟩ := vars
  obtain ⟨otherPairs, hothers⟩ := others
  obtain rfl : pairs = otherPairs := h
  rfl

theorem get?_ofPairs (pairs : List (String × String)) (name : String) :
    (ofPairs pairs).get? name = lastValue? pairs name := by
  rw [ofPairs, get?_overlay]
  exact Option.or_none

theorem eq_of_get? {vars others : Variables} (h : ∀ name, vars.get? name = others.get? name) :
    vars = others := by
  have hnodup : ∀ vars : Variables, vars.pairs.Nodup := by
    refine fun vars => List.Pairwise.imp (fun hlt heq => ?_) vars.ascending
    rw [heq] at hlt
    exact String.lt_irrefl _ hlt
  have hperm : vars.pairs.Perm others.pairs := by
    refine (List.perm_ext_iff_of_nodup (hnodup vars) (hnodup others)).mpr fun pair => ?_
    rw [← get?_eq_some_iff, ← get?_eq_some_iff, h]
  refine eq_of_pairs (hperm.eq_of_pairwise (fun a b _ _ hlt hgt => ?_) vars.ascending others.ascending)
  exact absurd (String.lt_trans hlt hgt) (String.lt_irrefl _)

end Variables

end Runbook
