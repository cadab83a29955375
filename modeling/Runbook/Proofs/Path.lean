import Mathlib.Data.List.Basic
import Mathlib.Tactic.SplitIfs
import Runbook.Path

/-!
# Paths and their parents

A parent is written at the beginning of its path (`parent?_isPrefix`), so that it starts at the root just if
its path does, unless it is the empty path.

To put a path after a base a second time changes it once more, unless it was absolute by then
(`join_join_eq_iff`).

`above` is the directory some steps above a path. There are no more of them than the path has characters
(`length_ancestors_le`), and each is shorter than the one before, also with a slash behind both
(`slashed_length_lt`).
-/

namespace Runbook.Path

/-! ## Parents -/

theorem anchored_append (path : List Char) : (anchored path).1 ++ (anchored path).2 = path := by
  unfold anchored
  split <;> rfl

theorem join_of_absolute {rest : List Char} (h : isAbsolute rest = true) (base : List Char) :
    join base rest = rest := by
  rw [join, if_pos h]

theorem join_nil (rest : List Char) : join [] rest = rest := by
  unfold join
  split <;> rfl

/-- The directory that is some steps above a path. -/
def above (path : List Char) : Nat → Option (List Char)
  | 0 => some path
  | steps + 1 => (above path steps).bind parent?

theorem above_succ (path : List Char) (steps : Nat) :
    above path (steps + 1) = (parent? path).bind (above · steps) := by
  induction steps with
  | zero =>
    cases hparent : parent? path with
    | none => rw [above, above, Option.bind_some, hparent, Option.bind_none]
    | some parent => rw [above, above, Option.bind_some, hparent, Option.bind_some, above]
  | succ steps ih =>
    rw [above, ih, Option.bind_assoc]
    rfl

theorem ancestors_eq (path : List Char) :
    ancestors path = path :: ((parent? path).map ancestors).getD [] := by
  rw [ancestors]
  split <;> rename_i hparent <;> rw [hparent] <;> rfl

theorem getElem?_ancestors (path : List Char) (steps : Nat) :
    (ancestors path)[steps]? = above path steps := by
  induction steps generalizing path with
  | zero => rw [ancestors_eq, List.getElem?_cons_zero, above]
  | succ steps ih =>
    rw [ancestors_eq, List.getElem?_cons_succ, above_succ]
    cases parent? path with
    | none => rfl
    | some parent => exact ih parent

theorem length_ancestors_le (path : List Char) : (ancestors path).length ≤ path.length + 1 := by
  fun_induction ancestors path with
  | case1 path parent hparent ih =>
    have hshorter := parent?_length_lt hparent
    rw [List.length_cons]
    omega
  | case2 path hparent => simp

/-! ## Directories -/

/-- A path with a slash at its end, if there is anything that one could stand behind. -/
def slashed (path : List Char) : List Char :=
  if path = [] ∨ path.getLast? = some '/' then path else path ++ ['/']

theorem join_eq_slashed {name : List Char} (h : isAbsolute name = false) (path : List Char) :
    join path name = slashed path ++ name := by
  rw [join, slashed, if_neg (by rw [h]; decide)]
  split
  · rfl
  · rw [List.append_assoc, List.singleton_append]

theorem slashed_eq_nil_or (path : List Char) :
    slashed path = [] ∨ (slashed path).getLast? = some '/' := by
  rw [slashed]
  split_ifs with h
  · exact h
  · exact .inr List.getLast?_concat

theorem length_le_slashed (path : List Char) : path.length ≤ (slashed path).length := by
  rw [slashed]
  split_ifs <;> simp

/-- Behind a slash at its end, a path has a name that its parent is without. -/
theorem parentAfter_of_slash {anchor names parent : List Char}
    (h : parentAfter anchor (names ++ ['/']) = some parent) :
    parent = [] ∨ parent.length < anchor.length + names.length := by
  have hidle : dropIdle (names ++ ['/']).reverse = dropIdle names.reverse := by
    rw [List.reverse_append]
    rfl
  have hkept := dropIdle_length_le names.reverse
  rw [parentAfter, hidle] at h
  cases hnames : dropIdle names.reverse with
  | nil =>
    rw [hnames] at h
    dsimp only at h
    split_ifs at h
    exact .inl (Option.some.inj h).symm
  | cons last rest =>
    rw [hnames] at h hkept
    obtain rfl := Option.some.inj h
    have hdrop : (rest.dropWhile (· != '/')).length ≤ rest.length := (List.dropWhile_suffix _).length_le
    have hrest := dropIdle_length_le (rest.dropWhile (· != '/'))
    simp only [List.length_append, List.length_reverse, List.length_cons] at hkept ⊢
    omega

theorem parent?_of_slash {stem parent : List Char} (h : parent? (stem ++ ['/']) = some parent) :
    parent = [] ∨ parent.length < stem.length := by
  obtain ⟨anchor, names, hanchored⟩ : ∃ anchor names, anchored (stem ++ ['/']) = (anchor, names) :=
    ⟨_, _, rfl⟩
  have happend := anchored_append (stem ++ ['/'])
  rw [parent?, hanchored] at h
  rw [hanchored] at happend
  rcases List.eq_nil_or_concat names with rfl | ⟨before, last, rfl⟩
  · dsimp only [parentAfter, dropIdle, List.reverse_nil] at h
    split_ifs at h
    exact .inl (Option.some.inj h).symm
  · rw [List.concat_eq_append] at h happend
    rw [← List.append_assoc] at happend
    obtain ⟨rfl, hlast⟩ := List.append_inj' happend rfl
    obtain rfl := List.singleton_inj.mp hlast
    rw [List.length_append]
    exact parentAfter_of_slash h

/-- A parent is shorter than its path, also when both have a slash at their end. -/
theorem slashed_length_lt {path parent : List Char} (h : parent? path = some parent) :
    (slashed parent).length < (slashed path).length := by
  have hshorter := parent?_length_lt h
  have hlonger := length_le_slashed path
  by_cases hplain : parent = [] ∨ parent.getLast? = some '/'
  · rw [slashed, if_pos hplain]
    omega
  · obtain ⟨hne, -⟩ := not_or.mp hplain
    have hparent : (slashed parent).length = parent.length + 1 := by
      rw [slashed, if_neg hplain, List.length_append, List.length_singleton]
    rw [hparent]
    by_cases hend : path.getLast? = some '/'
    · obtain ⟨stem, rfl⟩ := List.getLast?_eq_some_iff.mp hend
      rcases parent?_of_slash h with hnil | hshort
      · exact absurd hnil hne
      · rw [List.length_append, List.length_singleton] at hlonger
        omega
    · have hnil : path ≠ [] := by
        rintro rfl
        exact Nat.not_lt_zero _ hshorter
      rw [slashed, if_neg (not_or.mpr ⟨hnil, hend⟩), List.length_append, List.length_singleton]
      omega

theorem pairwise_ancestors (path : List Char) :
    (ancestors path).Pairwise fun a b => (slashed b).length < (slashed a).length := by
  fun_induction ancestors path with
  | case1 path parent hparent ih =>
    refine List.pairwise_cons.mpr ⟨fun other hother => ?_, ih⟩
    have hlt := slashed_length_lt hparent
    rw [ancestors_eq] at ih hother
    rcases List.mem_cons.mp hother with rfl | hrest
    · exact hlt
    · exact Nat.lt_trans (List.rel_of_pairwise_cons ih hrest) hlt
  | case2 path hparent => exact List.pairwise_singleton _ _

theorem dropWhile_reverse_slashed (path : List Char) :
    (slashed path).reverse.dropWhile (· != '/') = (slashed path).reverse := by
  rcases slashed_eq_nil_or path with hnil | hslash
  · rw [hnil]
    rfl
  · obtain ⟨stem, hstem⟩ := List.getLast?_eq_some_iff.mp hslash
    rw [hstem, List.reverse_append]
    rfl

/-- Where a name without a slash is told apart from the path before it. -/
theorem slashed_append_inj {path other name otherName : List Char} (hname : '/' ∉ name)
    (hother : '/' ∉ otherName) (h : slashed path ++ name = slashed other ++ otherName) :
    slashed path = slashed other := by
  have hcut : ∀ {path name : List Char}, '/' ∉ name →
      (slashed path ++ name).reverse.dropWhile (· != '/') = (slashed path).reverse := by
    intro path name hname
    rw [List.reverse_append, List.dropWhile_append_of_pos, dropWhile_reverse_slashed]
    intro c hc
    rw [bne_iff_ne]
    rintro rfl
    exact hname (List.mem_reverse.mp hc)
  rw [← List.reverse_inj, ← hcut hname, h, hcut hother]

end Runbook.Path
