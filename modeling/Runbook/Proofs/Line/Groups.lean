import Mathlib.Data.List.SplitBy
import Mathlib.Data.List.TakeWhile
import Runbook.Line.Splitter

/-!
# Groups of physical lines

A logical line is made of a group of physical lines: lines that go on, and the first line after them
that does not. The last group of a block may lack that line.

* `groups` cuts physical lines behind each line that does not go on (`groups_closed`, `groups_open`).
* `text` is the logical line of a group: its lines glued without their backslashes, then trimmed.
* `readable` are the groups that end before the first line that hides its continuation: all groups
  where no line does that (`readable_of_sound`).
* `readLines` are the physical lines up to that line, with it.
-/

namespace Runbook.Line

/-- Lists taken apart behind each item that fails `p`. -/
theorem cut_induction {α : Type} {P : List α → Prop} (p : α → Bool)
    (all : ∀ l, (∀ a ∈ l, p a = true) → P l)
    (cut : ∀ l a rest, (∀ b ∈ l, p b = true) → p a = false → P rest → P (l ++ a :: rest))
    (l : List α) : P l := by
  induction hn : l.length using Nat.strong_induction_on generalizing l with
  | _ n ih =>
    have hsplit := List.takeWhile_append_dropWhile (p := p) (l := l)
    have hall : ∀ a ∈ l.takeWhile p, p a = true := fun a ha => List.mem_takeWhile_imp ha
    cases hrest : l.dropWhile p with
    | nil =>
      rw [hrest, List.append_nil] at hsplit
      rw [hsplit] at hall
      exact all l hall
    | cons a rest =>
      have ha : p a = false := by
        have hhead := List.head?_dropWhile_not p l
        rw [hrest] at hhead
        simpa using hhead
      rw [hrest] at hsplit
      have hlength := congrArg List.length hsplit
      rw [List.length_append, List.length_cons] at hlength
      rw [← hsplit]
      exact cut _ a rest hall ha (ih rest.length (by omega) rest rfl)

/-! ## Lines that go on -/

/-- The line ends in a backslash. -/
def continues (line : String) : Bool := line.toList.getLast? == some '\\'

/-- The line ends in a backslash, but it may not go on. -/
def hidesContinuation (line : String) : Bool :=
  match fragment? line with
  | some fragment => !keepsHashes fragment
  | none => false

theorem fragment?_isSome (line : String) : (fragment? line).isSome = continues line := by
  unfold fragment? continues
  split_ifs with h <;> simp [h]

theorem fragment?_eq_none {line : String} (h : continues line = false) : fragment? line = none := by
  rw [← fragment?_isSome] at h
  simpa using h

theorem hidesContinuation_eq_false {line : String} (h : continues line = false) :
    hidesContinuation line = false := by
  rw [hidesContinuation, fragment?_eq_none h]

/-- The line ends in a backslash and may go on. -/
def joins (line : String) : Bool := continues line && !hidesContinuation line

theorem joins_iff {line : String} :
    joins line = true ↔ ∃ fragment, fragment? line = some fragment ∧ keepsHashes fragment = true := by
  rw [joins, ← fragment?_isSome, hidesContinuation]
  cases fragment? line <;> simp

theorem continues_of_joins {line : String} (h : joins line = true) : continues line = true := by
  rw [joins, Bool.and_eq_true] at h
  exact h.1

theorem sound_of_joins {line : String} (h : joins line = true) : hidesContinuation line = false := by
  rw [joins, Bool.and_eq_true] at h
  simpa using h.2

/-- A line that does not join to the next one closes a group, or it is in error. -/
theorem joins_eq_false_iff {line : String} :
    joins line = false ↔ continues line = false ∨ hidesContinuation line = true := by
  rw [joins, Bool.and_eq_false_iff]
  simp

/-! ## Groups -/

/-- The lines cut behind each one that does not go on. -/
def groups (lines : List String) : List (List String) := lines.splitBy fun line _ => continues line

theorem isChain_of_continues {lines : List String} (h : ∀ line ∈ lines, continues line = true) :
    lines.IsChain fun line _ => continues line = true :=
  (List.pairwise_of_forall_mem_list fun line hline _ _ => h line hline).isChain

/-- Lines that all go on are one open group. -/
theorem groups_open {lines : List String} (hne : lines ≠ [])
    (h : ∀ line ∈ lines, continues line = true) : groups lines = [lines] :=
  List.splitBy_of_isChain hne (isChain_of_continues h)

/-- A closed group is cut off from what comes behind it. -/
theorem groups_closed {lines : List String} (h : ∀ line ∈ lines, continues line = true)
    {last : String} (hlast : continues last = false) (rest : List String) :
    groups (lines ++ last :: rest) = (lines ++ [last]) :: groups rest := by
  have hcut : groups ((lines ++ [last]) ++ rest) = groups (lines ++ [last]) ++ groups rest := by
    apply List.splitBy_append
    intro line hline _ _
    rw [List.getLast?_concat, Option.mem_some_iff] at hline
    rw [← hline, hlast]
  have hone : groups (lines ++ [last]) = [lines ++ [last]] := by
    apply List.splitBy_of_isChain (by simp)
    refine (isChain_of_continues h).append (.singleton last) fun line hline _ _ => ?_
    exact h line (List.mem_of_mem_getLast? hline)
  rw [List.append_assoc, List.singleton_append] at hcut
  rw [hcut, hone, List.singleton_append]

/-- Lines that go on stand together at the start of one group. -/
theorem groups_of_continues {lines : List String} (hne : lines ≠ [])
    (h : ∀ line ∈ lines, continues line = true) (rest : List String) :
    ∃ tail others, groups (lines ++ rest) = (lines ++ tail) :: others := by
  induction rest using cut_induction continues with
  | all rest hrest =>
    refine ⟨rest, [], groups_open (by simp [hne]) fun line hline => ?_⟩
    exact (List.mem_append.mp hline).elim (h line) (hrest line)
  | cut rest last others hrest hlast _ =>
    refine ⟨rest ++ [last], groups others, ?_⟩
    rw [← List.append_assoc, ← List.append_assoc]
    refine groups_closed (fun line hline => ?_) hlast others
    exact (List.mem_append.mp hline).elim (h line) (hrest line)

/-! ## The text of a group -/

/-- The lines of a group put together, each without the backslash at its end. -/
def glue (group : List String) : String :=
  String.join (group.map fun line => (fragment? line).getD line)

/-- The logical line of a group. -/
def text (group : List String) : String := String.ofList (Text.trim (glue group).toList)

/-- The logical lines of groups, without the blank ones. -/
def texts (groups : List (List String)) : List String := (groups.map text).filter (· ≠ "")

theorem texts_cons (group : List String) (groups : List (List String)) :
    texts (group :: groups) = (if text group = "" then [] else [text group]) ++ texts groups := by
  unfold texts
  split_ifs with h <;> simp [h]

theorem logical?_glue (group : List String) :
    logical? (glue group) = if text group = "" then none else some (text group) := by
  unfold logical? text
  simp

/-! ## What is read -/

/-- The groups that end before the first line that hides its continuation. -/
def readable (lines : List String) : List (List String) :=
  (groups lines).takeWhile fun group => !group.any hidesContinuation

/-- The lines up to the first that hides its continuation, with it. -/
def readLines (lines : List String) : List String := lines.take (lines.findIdx hidesContinuation + 1)

theorem readable_of_sound {lines : List String}
    (h : ∀ line ∈ lines, hidesContinuation line = false) : readable lines = groups lines := by
  rw [readable, List.takeWhile_eq_self_iff]
  intro group hgroup
  have hflat : ∀ line ∈ group, line ∈ lines := fun line hline => by
    rw [← List.flatten_splitBy (fun line _ => continues line) lines]
    exact List.mem_flatten_of_mem hgroup hline
  simpa using fun line hline => h line (hflat line hline)

theorem readable_open {lines : List String} (h : ∀ line ∈ lines, joins line = true) :
    readable lines = if lines = [] then [] else [lines] := by
  rw [readable_of_sound fun line hline => sound_of_joins (h line hline)]
  split_ifs with hne
  · rw [hne]
    rfl
  · exact groups_open hne fun line hline => continues_of_joins (h line hline)

theorem readable_closed {lines : List String} (h : ∀ line ∈ lines, joins line = true)
    {last : String} (hlast : continues last = false) (rest : List String) :
    readable (lines ++ last :: rest) = (lines ++ [last]) :: readable rest := by
  have hsound : ∀ line ∈ lines, hidesContinuation line = false :=
    fun line hline => sound_of_joins (h line hline)
  rw [readable, groups_closed (fun line hline => continues_of_joins (h line hline)) hlast,
    List.takeWhile_cons_of_pos]
  · rfl
  · simpa [hidesContinuation_eq_false hlast] using hsound

/-- No group ends before its own line that hides the continuation. -/
theorem readable_hidden {lines : List String} (h : ∀ line ∈ lines, joins line = true)
    {line : String} (hline : hidesContinuation line = true) (rest : List String) :
    readable (lines ++ line :: rest) = [] := by
  have hcontinues : ∀ l ∈ lines ++ [line], continues l = true := by
    intro l hl
    rcases List.mem_append.mp hl with hl | hl
    · exact continues_of_joins (h l hl)
    · rw [List.mem_singleton.mp hl]
      by_contra hnot
      rw [hidesContinuation_eq_false (by simpa using hnot)] at hline
      cases hline
  obtain ⟨tail, others, hgroups⟩ := groups_of_continues (by simp) hcontinues rest
  rw [List.append_assoc, List.singleton_append] at hgroups
  rw [readable, hgroups]
  apply List.takeWhile_cons_of_neg
  simp [hline]

theorem readLines_append {lines : List String} (h : ∀ line ∈ lines, hidesContinuation line = false)
    (rest : List String) : readLines (lines ++ rest) = lines ++ readLines rest := by
  induction lines with
  | nil => rfl
  | cons line lines ih =>
    have hline := h line List.mem_cons_self
    have hrest := ih fun l hl => h l (List.mem_cons_of_mem _ hl)
    unfold readLines at hrest ⊢
    rw [List.cons_append, List.findIdx_cons, hline, cond_false, List.take_succ_cons, hrest]
    rfl

theorem readLines_of_sound {lines : List String}
    (h : ∀ line ∈ lines, hidesContinuation line = false) : readLines lines = lines := by
  rw [← List.append_nil lines, readLines_append h]
  rfl

theorem readLines_hidden {line : String} (h : hidesContinuation line = true) (rest : List String) :
    readLines (line :: rest) = [line] := by
  rw [readLines, List.findIdx_cons, h]
  rfl

end Runbook.Line
