/-!
# Variables

A finite map from names to values, kept in ascending order of the names.

* `Variables.insert` gives a name a value, in place of one it may have.
* `Variables.overlay` inserts pairs one after the other, so that the last pair for a name counts.
* `get?_insert` and `get?_overlay` say what a look-up finds afterwards.
-/

namespace Runbook

/-- Inserts a pair into pairs with ascending names. -/
def insertPair (name value : String) : List (String × String) → List (String × String)
  | [] => [(name, value)]
  | pair :: rest =>
    if name < pair.1 then (name, value) :: pair :: rest
    else if name = pair.1 then (name, value) :: rest
    else pair :: insertPair name value rest

/-- The names ascend. -/
def Ascending (pairs : List (String × String)) : Prop :=
  pairs.Pairwise fun a b => a.1 < b.1

theorem mem_insertPair {name value : String} {pairs : List (String × String)} {pair : String × String}
    (h : pair ∈ insertPair name value pairs) : pair = (name, value) ∨ pair ∈ pairs := by
  induction pairs with
  | nil => exact Or.inl (List.mem_singleton.mp h)
  | cons first rest ih =>
    unfold insertPair at h
    split at h
    · rcases List.mem_cons.mp h with h | h
      · exact Or.inl h
      · exact Or.inr h
    · split at h
      · rcases List.mem_cons.mp h with h | h
        · exact Or.inl h
        · exact Or.inr (List.mem_cons_of_mem _ h)
      · rcases List.mem_cons.mp h with h | h
        · exact Or.inr (h ▸ List.mem_cons_self)
        · exact (ih h).imp id (List.mem_cons_of_mem _)

theorem lt_of_not_lt_of_ne {a b : String} (hlt : ¬ a < b) (hne : a ≠ b) : b < a :=
  Decidable.byContradiction fun h => hne (String.le_antisymm (String.not_lt.mp h) (String.not_lt.mp hlt))

theorem ascending_insertPair (name value : String) {pairs : List (String × String)}
    (h : Ascending pairs) : Ascending (insertPair name value pairs) := by
  induction pairs with
  | nil => exact List.pairwise_singleton _ _
  | cons first rest ih =>
    obtain ⟨hfirst, hrest⟩ := List.pairwise_cons.mp h
    unfold insertPair
    split
    · rename_i hlt
      refine List.pairwise_cons.mpr ⟨fun pair hpair => ?_, h⟩
      rcases List.mem_cons.mp hpair with rfl | hpair
      · exact hlt
      · exact String.lt_trans hlt (hfirst pair hpair)
    · split
      · rename_i heq
        exact List.pairwise_cons.mpr ⟨fun pair hpair => heq ▸ hfirst pair hpair, hrest⟩
      · rename_i hlt hne
        refine List.pairwise_cons.mpr ⟨fun pair hpair => ?_, ih hrest⟩
        rcases mem_insertPair hpair with rfl | hpair
        · exact lt_of_not_lt_of_ne hlt hne
        · exact hfirst pair hpair

/-- A map from names to values. -/
structure Variables where
  pairs : List (String × String)
  ascending : Ascending pairs
  deriving DecidableEq

namespace Variables

/-- No variables. -/
def empty : Variables := ⟨[], List.Pairwise.nil⟩

/-- There are no variables. -/
def isEmpty (vars : Variables) : Bool := vars.pairs.isEmpty

/-- Gives a name a value. -/
def insert (vars : Variables) (name value : String) : Variables :=
  ⟨insertPair name value vars.pairs, ascending_insertPair name value vars.ascending⟩

/-- Gives values to names, one pair after the other. -/
def overlay (vars : Variables) (pairs : List (String × String)) : Variables :=
  pairs.foldl (fun vars pair => vars.insert pair.1 pair.2) vars

/-- The variables of a list of pairs; the last pair for a name counts. -/
def ofPairs (pairs : List (String × String)) : Variables := empty.overlay pairs

/-- The value of a name. -/
def get? (vars : Variables) (name : String) : Option String :=
  (vars.pairs.find? (·.1 == name)).map (·.2)

/-- The variables without one name. -/
def erase (vars : Variables) (name : String) : Variables :=
  ⟨vars.pairs.filter (·.1 != name), vars.ascending.filter _⟩

/-! ## Look-ups -/

theorem find?_insertPair (name value other : String) (pairs : List (String × String)) :
    (insertPair name value pairs).find? (·.1 == other) =
      if name = other then some (name, value) else pairs.find? (·.1 == other) := by
  induction pairs with
  | nil => by_cases h : name = other <;> simp [insertPair, h]
  | cons first rest ih =>
    unfold insertPair
    split
    · by_cases h : name = other <;> simp [List.find?_cons, h]
    · split
      · rename_i heq
        by_cases h : name = other <;> simp [h, ← heq]
      · rename_i hne
        by_cases h : name = other
        · subst h
          have hfirst : ¬ first.1 = name := fun heq => hne heq.symm
          simp [hfirst, ih]
        · simp [List.find?_cons, ih, h]

theorem get?_insert (vars : Variables) (name value other : String) :
    (vars.insert name value).get? other =
      if name = other then some value else vars.get? other := by
  unfold get? insert
  rw [find?_insertPair]
  split <;> rfl

theorem get?_overlay (vars : Variables) (pairs : List (String × String)) (name : String) :
    (vars.overlay pairs).get? name =
      ((pairs.reverse.find? (·.1 == name)).map (·.2)).or (vars.get? name) := by
  induction pairs generalizing vars with
  | nil => rfl
  | cons first rest ih =>
    have hstep : vars.overlay (first :: rest) =
        (vars.insert first.1 first.2).overlay rest := rfl
    rw [hstep, ih, get?_insert, List.reverse_cons, List.find?_append]
    cases rest.reverse.find? (·.1 == name) with
    | some pair => rfl
    | none => by_cases h : first.1 = name <;> simp [h]

end Variables

end Runbook
