import Mathlib.Data.List.Basic
import Runbook.Line.Splitter

/-!
# Hashes, comments and continuations

A line that ends in a backslash may go on only if no comment hides the backslash. The splitter decides
this for each fragment alone and by counting hashes. Here both are shown to be enough.

* `OpensComment`: read from some state of the lexer, a hash of the text stands between words.
* `held_run_eq_iff` (no assumption but that the lexer is not in a comment): the lexer holds as many
  hashes more as the text has exactly when no hash of the text opens a comment.
* `keepsHashes_iff`: the count accepts a fragment exactly when it has words and none of its hashes opens
  a comment.
* `Settled` is the invariant of gluing: after an accepted fragment the lexer stands between words or in
  a word outside quotes. A further accepted fragment keeps it there (`settled_run_of_accepted`), although
  it is then read from the middle of a word.
* `continuations_keep_hashes`: both together for a physical line and for any number of glued fragments.
-/

namespace Runbook.Word

open Line (hashes keepsHashes)

namespace Lexer

@[simp] theorem run_nil (lexer : Lexer) : lexer.run [] = lexer := rfl

@[simp] theorem run_cons (lexer : Lexer) (c : Char) (text : List Char) :
    lexer.run (c :: text) = (lexer.step c).run text := rfl

/-! ## The mode alone decides the next mode -/

theorem mode_step_congr {a b : Lexer} (h : a.mode = b.mode) (c : Char) :
    (a.step c).mode = (b.step c).mode := by
  unfold step stepPlain push
  rw [h]
  cases hmode : b.mode <;> dsimp only <;> split_ifs <;> simp_all

theorem mode_run_congr {a b : Lexer} (h : a.mode = b.mode) (text : List Char) :
    (a.run text).mode = (b.run text).mode := by
  induction text generalizing a b with
  | nil => exact h
  | cons c text ih => exact ih (mode_step_congr h c)

/-- A comment opens only at a hash between words. -/
theorem mode_step_ne_comment {lexer : Lexer} {c : Char} (hmode : lexer.mode ≠ .comment)
    (hopen : ¬ (c = '#' ∧ lexer.mode = .gap)) : (lexer.step c).mode ≠ .comment := by
  unfold step stepPlain push
  cases h : lexer.mode <;> dsimp only <;> split_ifs <;> simp_all

/-- Between words nothing is pending. -/
def Tidy (lexer : Lexer) : Prop := lexer.mode = .gap ∨ lexer.mode = .comment → lexer.word = []

theorem tidy_start : start.Tidy := fun _ => rfl

theorem tidy_step {lexer : Lexer} (h : lexer.Tidy) (c : Char) : (lexer.step c).Tidy := by
  unfold Tidy step stepPlain push at *
  cases hmode : lexer.mode <;> dsimp only <;> split_ifs <;> simp_all

theorem tidy_run {lexer : Lexer} (h : lexer.Tidy) (text : List Char) : (lexer.run text).Tidy := by
  induction text generalizing lexer with
  | nil => exact h
  | cons c text ih => exact ih (tidy_step h c)

/-! ## Comments -/

/-- Read from here, a hash of the text opens a comment. -/
def OpensComment (lexer : Lexer) (text : List Char) : Prop :=
  ∃ before after, text = before ++ '#' :: after ∧ (lexer.run before).mode = .gap

theorem not_opensComment_nil (lexer : Lexer) : ¬ lexer.OpensComment [] := by
  rintro ⟨before, after, h, -⟩
  simp at h

theorem opensComment_cons {lexer : Lexer} {c : Char} {text : List Char} :
    lexer.OpensComment (c :: text) ↔
      (c = '#' ∧ lexer.mode = .gap) ∨ (lexer.step c).OpensComment text := by
  constructor
  · rintro ⟨before, after, h, hmode⟩
    cases before with
    | nil =>
      obtain ⟨rfl, -⟩ := List.cons.inj h
      exact Or.inl ⟨rfl, hmode⟩
    | cons b before =>
      obtain ⟨rfl, htext⟩ := List.cons.inj h
      exact Or.inr ⟨before, after, htext, hmode⟩
  · rintro (⟨rfl, hmode⟩ | ⟨before, after, rfl, hmode⟩)
    · exact ⟨[], text, rfl, hmode⟩
    · exact ⟨c :: before, after, rfl, hmode⟩

theorem opensComment_append {lexer : Lexer} {x y : List Char} :
    lexer.OpensComment (x ++ y) ↔ lexer.OpensComment x ∨ (lexer.run x).OpensComment y := by
  induction x generalizing lexer with
  | nil => simp [not_opensComment_nil]
  | cons c x ih => rw [List.cons_append, opensComment_cons, ih, opensComment_cons, run_cons, or_assoc]

theorem opensComment_congr {a b : Lexer} (h : a.mode = b.mode) {text : List Char} :
    a.OpensComment text ↔ b.OpensComment text := by
  simp only [OpensComment, mode_run_congr h]

/-- A comment that begins in front of `y` begins in `x`. -/
theorem opensComment_of_lt {lexer : Lexer} {x y before after : List Char}
    (h : x ++ y = before ++ '#' :: after) (hlt : before.length < x.length)
    (hmode : (lexer.run before).mode = .gap) : lexer.OpensComment x := by
  rcases List.append_eq_append_iff.mp h with ⟨tail, hbefore, -⟩ | ⟨tail, hx, htail⟩
  · rw [hbefore, List.length_append] at hlt
    omega
  · cases tail with
    | nil =>
      rw [hx, List.append_nil] at hlt
      omega
    | cons c tail =>
      obtain ⟨rfl, -⟩ := List.cons.inj htail
      exact ⟨before, tail, hx, hmode⟩

/-! ## Hashes held by the lexer -/

/-- The hashes in the words that were read, the last one included. -/
def held (lexer : Lexer) : Nat := hashes lexer.word + hashes lexer.words.flatten

theorem hashes_cons (c : Char) (text : List Char) :
    hashes (c :: text) = hashes text + if c = '#' then 1 else 0 := by
  simp [hashes, List.count_cons]

theorem hashes_append (x y : List Char) : hashes (x ++ y) = hashes x + hashes y := List.count_append

theorem held_push (lexer : Lexer) (c : Char) :
    (lexer.push c).held = lexer.held + if c = '#' then 1 else 0 := by
  simp only [held, push, hashes_cons]
  omega

theorem held_mode (lexer : Lexer) (mode : Mode) : { lexer with mode }.held = lexer.held := rfl

theorem held_stepPlain (lexer : Lexer) (c : Char) :
    (lexer.stepPlain c).held = lexer.held + if c = '#' then 1 else 0 := by
  unfold stepPlain
  split_ifs <;> simp_all [held_mode, held_push]

/-- The end of a word moves its hashes to the complete words. -/
theorem held_endWord (lexer : Lexer) (mode : Mode) :
    held ⟨mode, [], lexer.word.reverse :: lexer.words⟩ = lexer.held := by
  simp [held, hashes]

/-- A hash is lost in a comment and where it opens one, and it is kept everywhere else. -/
theorem held_step (lexer : Lexer) (c : Char) :
    (lexer.step c).held =
      lexer.held + if c = '#' ∧ lexer.mode ≠ .gap ∧ lexer.mode ≠ .comment then 1 else 0 := by
  unfold step
  cases hmode : lexer.mode with
  | gap =>
    by_cases hc : c = '#'
    · simp [hc, isGap, held_mode]
    · split_ifs <;> simp_all [held_stepPlain]
  | comment => dsimp only; split_ifs <;> simp_all [held_mode]
  | plain =>
    by_cases hgap : isGap c
    · have hc : c ≠ '#' := by rintro rfl; simp [isGap] at hgap
      simp [hgap, hc, held_endWord]
    · simp [hgap, held_stepPlain]
  | escaped => dsimp only; split_ifs <;> simp_all [held_mode, held_push]
  | single => dsimp only; split_ifs <;> simp_all [held_mode, held_push]
  | double => dsimp only; split_ifs <;> simp_all [held_mode, held_push]
  | doubleEscaped => dsimp only; split_ifs <;> simp_all [held_mode, held_push]

theorem held_le_step (lexer : Lexer) (c : Char) : lexer.held ≤ (lexer.step c).held := by
  rw [held_step]
  exact Nat.le_add_right _ _

theorem held_step_le (lexer : Lexer) (c : Char) :
    (lexer.step c).held ≤ lexer.held + hashes [c] := by
  rw [held_step, hashes_cons]
  split_ifs <;> simp_all

theorem held_step_of_not_open {lexer : Lexer} {c : Char} (hmode : lexer.mode ≠ .comment)
    (hopen : ¬ (c = '#' ∧ lexer.mode = .gap)) :
    (lexer.step c).held = lexer.held + hashes [c] := by
  rw [held_step, hashes_cons]
  split_ifs <;> simp_all [hashes]

theorem held_le_run (lexer : Lexer) (text : List Char) : lexer.held ≤ (lexer.run text).held := by
  induction text generalizing lexer with
  | nil => exact Nat.le_refl _
  | cons c text ih => exact Nat.le_trans (held_le_step lexer c) (ih _)

theorem held_run_le (lexer : Lexer) (text : List Char) :
    (lexer.run text).held ≤ lexer.held + hashes text := by
  induction text generalizing lexer with
  | nil => exact Nat.le_add_right _ _
  | cons c text ih =>
    have hstep := held_step_le lexer c
    have hrest := ih (lexer.step c)
    have happend := hashes_append [c] text
    rw [List.singleton_append] at happend
    rw [run_cons]
    omega

/-- Counting hashes finds every comment. -/
theorem held_run_eq_iff {lexer : Lexer} (hmode : lexer.mode ≠ .comment) (text : List Char) :
    (lexer.run text).held = lexer.held + hashes text ↔ ¬ lexer.OpensComment text := by
  induction text generalizing lexer with
  | nil => simp [not_opensComment_nil, hashes]
  | cons c text ih =>
    have happend := hashes_append [c] text
    rw [List.singleton_append] at happend
    rw [run_cons, opensComment_cons, not_or]
    by_cases hopen : c = '#' ∧ lexer.mode = .gap
    · -- the hash that opens the comment is lost, and no later one makes up for it
      have hlost : (lexer.step c).held = lexer.held := by
        rw [held_step, if_neg (by simp [hopen.2])]
        rfl
      have hrest := held_run_le (lexer.step c) text
      have hone : hashes [c] = 1 := by rw [hopen.1]; rfl
      have hlt : (lexer.step c |>.run text).held ≠ lexer.held + hashes (c :: text) := by omega
      exact iff_of_false hlt fun h => h.1 hopen
    · have hstep := held_step_of_not_open hmode hopen
      have hrest := ih (mode_step_ne_comment hmode hopen)
      rw [← hrest, hstep, happend, Nat.add_assoc]
      exact ⟨fun h => ⟨hopen, h⟩, fun h => h.2⟩

/-- Without a comment the lexer does not end in one. -/
theorem mode_run_ne_comment {lexer : Lexer} (hmode : lexer.mode ≠ .comment) {text : List Char}
    (h : ¬ lexer.OpensComment text) : (lexer.run text).mode ≠ .comment := by
  induction text generalizing lexer with
  | nil => exact hmode
  | cons c text ih =>
    rw [opensComment_cons, not_or] at h
    exact ih (mode_step_ne_comment hmode h.1) h.2

/-! ## Words at the end -/

theorem finish?_isSome_iff {lexer : Lexer} :
    lexer.finish?.isSome ↔ lexer.mode = .gap ∨ lexer.mode = .comment ∨ lexer.mode = .plain := by
  unfold finish?
  cases lexer.mode <;> simp

/-- The words of a finished text hold what the lexer holds. -/
theorem hashes_finish {lexer : Lexer} (htidy : lexer.Tidy) {words : List (List Char)}
    (h : lexer.finish? = some words) : hashes words.flatten = lexer.held := by
  have hwords : hashes lexer.words.reverse.flatten = hashes lexer.words.flatten := by
    simp [hashes, List.count_flatten]
  unfold finish? at h
  split at h
  · rename_i hgap
    rw [← Option.some.inj h, hwords, held, htidy (Or.inl hgap)]
    simp [hashes]
  · rename_i hcomment
    rw [← Option.some.inj h, hwords, held, htidy (Or.inr hcomment)]
    simp [hashes]
  · rw [← Option.some.inj h, List.reverse_cons, List.flatten_append, hashes_append, hwords, held]
    simp [hashes, Nat.add_comm]
  all_goals cases h

/-! ## Gluing fragments -/

/-- The lexer stands between words or in a word outside quotes, with nothing left open. -/
def Settled (lexer : Lexer) : Prop := lexer.mode = .gap ∨ lexer.mode = .plain

/-- Read from the start, the text opens no comment and leaves nothing open. -/
def Accepted (text : List Char) : Prop := ¬ start.OpensComment text ∧ (start.run text).Settled

/-- Behind a first character that opens no comment, it does not matter whether a word had begun. -/
theorem mode_step_of_settled {lexer : Lexer} (h : lexer.Settled) {c : Char} (hc : c ≠ '#') :
    (lexer.step c).mode = (start.step c).mode := by
  rcases h with hgap | hplain
  · exact mode_step_congr hgap c
  · unfold step stepPlain push
    rw [hplain]
    dsimp only [start]
    split_ifs <;> rfl

/-- An accepted fragment may be glued on. -/
theorem settled_run_of_accepted {lexer : Lexer} (h : lexer.Settled) {text : List Char}
    (htext : Accepted text) : ¬ lexer.OpensComment text ∧ (lexer.run text).Settled := by
  obtain ⟨hopen, hsettled⟩ := htext
  cases text with
  | nil => exact ⟨not_opensComment_nil _, h⟩
  | cons c text =>
    rw [opensComment_cons, not_or] at hopen ⊢
    have hc : c ≠ '#' := fun hc => hopen.1 ⟨hc, rfl⟩
    have hmode := mode_step_of_settled h hc
    refine ⟨⟨fun hhash => hc hhash.1, ?_⟩, ?_⟩
    · rw [opensComment_congr hmode]
      exact hopen.2
    · unfold Settled at hsettled ⊢
      rw [run_cons] at hsettled ⊢
      rw [mode_run_congr hmode]
      exact hsettled

theorem settled_run_flatten {lexer : Lexer} (h : lexer.Settled) {texts : List (List Char)}
    (htexts : ∀ text ∈ texts, Accepted text) :
    ¬ lexer.OpensComment texts.flatten ∧ (lexer.run texts.flatten).Settled := by
  induction texts generalizing lexer with
  | nil => exact ⟨not_opensComment_nil _, h⟩
  | cons text texts ih =>
    obtain ⟨hopen, hsettled⟩ := settled_run_of_accepted h (htexts text List.mem_cons_self)
    obtain ⟨hopens, hend⟩ := ih hsettled fun t ht => htexts t (List.mem_cons_of_mem _ ht)
    rw [List.flatten_cons, opensComment_append, run_append, not_or]
    exact ⟨⟨hopen, hopens⟩, hend⟩

end Lexer

open Lexer (Accepted OpensComment)

/-! ## What the count accepts -/

theorem split?_isSome_iff_settled {text : List Char} (h : ¬ OpensComment .start text) :
    (split? text).isSome ↔ (Lexer.start.run text).Settled := by
  have hmode := Lexer.mode_run_ne_comment (by decide) h
  rw [split?, Lexer.finish?_isSome_iff, Lexer.Settled]
  simp [hmode]

theorem hashes_split {text : List Char} {words : List (List Char)} (h : split? text = some words) :
    hashes words.flatten = (Lexer.start.run text).held :=
  Lexer.hashes_finish (Lexer.tidy_run Lexer.tidy_start text) h

/-- Words hold all hashes of a text exactly when none of them opens a comment. -/
theorem hashes_split_eq_iff {text : List Char} {words : List (List Char)}
    (h : split? text = some words) :
    hashes words.flatten = hashes text ↔ ¬ OpensComment .start text := by
  rw [hashes_split h, ← Lexer.held_run_eq_iff (by decide) text]
  simp [Lexer.held, Lexer.start, hashes]

theorem keepsHashes_iff {fragment : String} :
    keepsHashes fragment = true ↔
      (split? fragment.toList).isSome ∧ ¬ OpensComment .start fragment.toList := by
  unfold keepsHashes
  cases h : split? fragment.toList with
  | none => simp
  | some words => simp [hashes_split_eq_iff h]

theorem keepsHashes_iff_accepted {fragment : String} :
    keepsHashes fragment = true ↔ Accepted fragment.toList := by
  rw [keepsHashes_iff, and_comm]
  exact and_congr_right split?_isSome_iff_settled

theorem accepted_join {fragments : List String}
    (h : ∀ fragment ∈ fragments, keepsHashes fragment = true) :
    Accepted (String.join fragments).toList := by
  rw [String.toList_join, List.flatMap_def]
  apply Lexer.settled_run_flatten (Or.inl rfl)
  intro text htext
  obtain ⟨fragment, hmem, rfl⟩ := List.mem_map.mp htext
  exact keepsHashes_iff_accepted.mp (h fragment hmem)

/-! ## Lines -/

theorem ofLine_eq_ok_iff {line : String} {words : List String} :
    ofLine line = .ok words ↔
      ∃ texts, split? line.toList = some texts ∧ texts.map String.ofList = words := by
  unfold ofLine
  cases h : split? line.toList <;> simp

theorem exists_ofLine_iff {line : String} :
    (∃ words, ofLine line = .ok words) ↔ (split? line.toList).isSome := by
  unfold ofLine
  cases h : split? line.toList <;> simp

theorem flatMap_toList_map_ofList (texts : List (List Char)) :
    (texts.map String.ofList).flatMap String.toList = texts.flatten := by
  simp [List.flatMap_def, Function.comp_def]

/-- **Continuations lose nothing in comments.** A line may go on exactly when what stands before its
backslash has words and none of its hashes opens a comment. Lines that may go on can be glued, as many
as there are: what they give together has words that hold all its hashes, and whatever line follows, no
comment begins in front of it. -/
theorem continuations_keep_hashes :
    (∀ line fragment, Line.fragment? line = some fragment →
      (keepsHashes fragment = true ↔
        (∃ words, ofLine fragment = .ok words) ∧ ¬ OpensComment .start fragment.toList)) ∧
    ∀ fragments, (∀ fragment ∈ fragments, keepsHashes fragment = true) →
      let glued := String.join fragments
      (∃ words, ofLine glued = .ok words ∧
        hashes (words.flatMap String.toList) = hashes glued.toList) ∧
      ∀ line words, ofLine (glued ++ line) = .ok words →
        (∀ before after, (glued ++ line).toList = before ++ '#' :: after →
          before.length < glued.toList.length → (Lexer.start.run before).mode ≠ .gap) ∧
        hashes glued.toList ≤ hashes (words.flatMap String.toList) := by
  refine ⟨fun line fragment _ => ?_, fun fragments hfragments => ?_⟩
  · rw [keepsHashes_iff, exists_ofLine_iff]
  · intro glued
    obtain ⟨hopen, hsettled⟩ := accepted_join hfragments
    obtain ⟨texts, htexts⟩ := Option.isSome_iff_exists.mp ((split?_isSome_iff_settled hopen).mpr hsettled)
    refine ⟨⟨texts.map String.ofList, ofLine_eq_ok_iff.mpr ⟨texts, htexts, rfl⟩, ?_⟩, ?_⟩
    · rw [flatMap_toList_map_ofList]
      exact (hashes_split_eq_iff htexts).mpr hopen
    · intro line words hwords
      refine ⟨fun before after h hlt hmode => ?_, ?_⟩
      · rw [String.toList_append] at h
        exact hopen (Lexer.opensComment_of_lt h hlt hmode)
      · obtain ⟨whole, hwhole, rfl⟩ := ofLine_eq_ok_iff.mp hwords
        rw [flatMap_toList_map_ofList, hashes_split hwhole, String.toList_append, Lexer.run_append,
          ← (hashes_split_eq_iff htexts).mpr hopen, hashes_split htexts]
        exact Lexer.held_le_run _ _

/-- One fragment whose hashes stay and one whose hash opens a comment, and the first glued to a line. -/
theorem continuations_keep_hashes_fragments :
    let kept := "x '#' a#"
    let refused := "x #a"
    Line.fragment? (kept ++ "\\") = some kept ∧ keepsHashes kept = true ∧
      Line.fragment? (refused ++ "\\") = some refused ∧ keepsHashes refused = false ∧
      (∃ words, ofLine kept = .ok words) ∧ OpensComment .start refused.toList ∧
      ofLine (String.join [kept, kept] ++ "b # c") = .ok ["x", "#", "a#x", "#", "a#b"] ∧
      hashes (String.join [kept, kept]).toList ≤ hashes "x#a#x#a#b".toList := by
  intro kept refused
  obtain ⟨hfragment, hglued⟩ := continuations_keep_hashes
  have hkept : keepsHashes kept = true := by decide +kernel
  have hrefused : keepsHashes refused = false := by decide +kernel
  have hline : Line.fragment? (kept ++ "\\") = some kept := by decide +kernel
  have hrefusedLine : Line.fragment? (refused ++ "\\") = some refused := by decide +kernel
  have hwords : ofLine (String.join [kept, kept] ++ "b # c") = .ok ["x", "#", "a#x", "#", "a#b"] := by
    decide +kernel
  have hall : ∀ fragment ∈ [kept, kept], keepsHashes fragment = true := by
    simpa using hkept
  refine ⟨hline, hkept, hrefusedLine, hrefused, ((hfragment _ _ hline).mp hkept).1, ?_, hwords,
    ((hglued _ hall).2 _ _ hwords).2⟩
  by_contra hkeeps
  have hokay : keepsHashes refused = true :=
    (hfragment _ _ hrefusedLine).mpr ⟨⟨["x"], by decide +kernel⟩, hkeeps⟩
  rw [hrefused] at hokay
  cases hokay

end Runbook.Word
