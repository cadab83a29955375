import Runbook.Proofs.Line.Breaks
import Runbook.Proofs.Word.Comments

/-!
# What trimming does to a logical line

A logical line is trimmed of all blank characters, but only spaces, tabs and line feeds separate words.
So trimming may take a character of a word, or the character that a backslash covers.

* `Lexer.read` is the text of the words that the lexer holds. What is read further depends on the mode
  alone (`read_run`).
* `finish?_run_blank_iff`: blanks behind a text leave its words as they are only if all of them separate
  words or stand in a comment; `split?_eq_none_of_leading` is about those in front.
* `TrimsSafely`: what is trimmed separates words, or it belongs to a comment.
* `trimmed_keeps_words`: a logical line has the words of the glued lines exactly when it was trimmed
  safely, or when neither has words.
* `trimmed_loses_words`: a blank behind a backslash, and a blank that is no separator.
-/

namespace Runbook

namespace Text

/-- The blank characters at the start of a text. -/
def leading (text : List Char) : List Char := text.takeWhile isBlank

/-- The blank characters at the end of a text that are not at its start. -/
def trailing (text : List Char) : List Char := ((trimStart text).reverse.takeWhile isBlank).reverse

theorem trim_append_trailing (text : List Char) : trim text ++ trailing text = trimStart text := by
  rw [trim, trimEnd, trailing, ← List.reverse_append, List.takeWhile_append_dropWhile,
    List.reverse_reverse]

theorem leading_append_trim_append_trailing (text : List Char) :
    leading text ++ (trim text ++ trailing text) = text := by
  rw [trim_append_trailing, leading, trimStart, List.takeWhile_append_dropWhile]

theorem isBlank_of_mem_leading {text : List Char} {c : Char} (h : c ∈ leading text) :
    isBlank c = true :=
  List.mem_takeWhile_imp h

theorem isBlank_of_mem_trailing {text : List Char} {c : Char} (h : c ∈ trailing text) :
    isBlank c = true :=
  List.mem_takeWhile_imp (List.mem_reverse.mp h)

theorem isBlank_head_trim {text : List Char} {c : Char} {rest : List Char}
    (h : trim text = c :: rest) : isBlank c = false := by
  have hstart := trim_append_trailing text
  have hhead := List.head?_dropWhile_not isBlank text
  rw [← trimStart, ← hstart, h] at hhead
  simpa using hhead

end Text

namespace Word

open Text (isBlank leading trailing trim)

namespace Lexer

/-! ## The text that was read -/

/-- The characters of the words that were read, the last one included. -/
def read (lexer : Lexer) : List Char := lexer.words.reverse.flatten ++ lexer.word.reverse

theorem read_step (lexer : Lexer) (c : Char) :
    (lexer.step c).read = lexer.read ++ (step ⟨lexer.mode, [], []⟩ c).read := by
  unfold read step stepPlain push
  cases hmode : lexer.mode <;> dsimp only <;> split_ifs <;> simp

/-- What is read from here on depends on the mode alone. -/
theorem read_run (lexer : Lexer) (text : List Char) :
    (lexer.run text).read = lexer.read ++ (run ⟨lexer.mode, [], []⟩ text).read := by
  induction text generalizing lexer with
  | nil => exact (List.append_nil _).symm
  | cons c text ih =>
    have hmode : (lexer.step c).mode = (step ⟨lexer.mode, [], []⟩ c).mode :=
      @mode_step_congr lexer ⟨lexer.mode, [], []⟩ rfl c
    rw [run_cons, run_cons, ih, ih (step _ c), read_step, hmode, List.append_assoc]

/-- The words of a finished text are made of what was read. -/
theorem flatten_finish {lexer : Lexer} (htidy : lexer.Tidy) {words : List (List Char)}
    (h : lexer.finish? = some words) : words.flatten = lexer.read := by
  unfold finish? at h
  split at h
  · rename_i hgap
    rw [← Option.some.inj h, read, htidy (Or.inl hgap), List.reverse_nil, List.append_nil]
  · rename_i hcomment
    rw [← Option.some.inj h, read, htidy (Or.inr hcomment), List.reverse_nil, List.append_nil]
  · rw [← Option.some.inj h, read, List.reverse_cons, List.flatten_append, List.flatten_singleton]
  all_goals cases h

/-! ## Blank characters -/

theorem ne_of_isBlank {c : Char} (h : isBlank c = true) :
    c ≠ '#' ∧ c ≠ '\'' ∧ c ≠ '"' ∧ c ≠ '\\' := by
  refine ⟨?_, ?_, ?_, ?_⟩ <;> rintro rfl <;> cases h

theorem isGap_eq_false {c : Char} (h : isBlank c = false) : isGap c = false := by
  by_contra hgap
  simp only [isGap, Bool.not_eq_false, Bool.or_eq_true, beq_iff_eq] at hgap
  rcases hgap with (rfl | rfl) | rfl <;> cases h

/-- A blank character separates words, or it is a character like any other. -/
theorem step_blank {lexer : Lexer} (h : lexer.Settled) {c : Char} (hc : isBlank c = true) :
    (lexer.step c).mode = (if isGap c then .gap else .plain) ∧
      (isGap c = false → (lexer.step c).read = lexer.read ++ [c]) := by
  obtain ⟨hhash, hsingle, hdouble, hbackslash⟩ := ne_of_isBlank hc
  unfold step stepPlain push read
  rcases h with h | h <;> rw [h] <;> by_cases hgap : isGap c <;>
    simp [hgap, hhash, hsingle, hdouble, hbackslash, h]

theorem settled_run_blank {lexer : Lexer} (h : lexer.Settled) {text : List Char}
    (htext : ∀ c ∈ text, isBlank c = true) : (lexer.run text).Settled := by
  induction text generalizing lexer with
  | nil => exact h
  | cons c text ih =>
    refine ih ?_ fun d hd => htext d (List.mem_cons_of_mem _ hd)
    unfold Settled
    rw [(step_blank h (htext c List.mem_cons_self)).1]
    split_ifs <;> simp

/-- A blank character that separates no words is read. -/
theorem read_run_blank_ne_nil {lexer : Lexer} (h : lexer.Settled) {text : List Char}
    (htext : ∀ c ∈ text, isBlank c = true) (hword : ∃ c ∈ text, isGap c = false) :
    (lexer.run text).read ≠ [] := by
  obtain ⟨c, hc, hgap⟩ := hword
  obtain ⟨before, after, rfl⟩ := List.append_of_mem hc
  have hbefore := settled_run_blank h fun d hd => htext d (List.mem_append_left _ hd)
  rw [run_append, run_cons, read_run, (step_blank hbefore (htext c hc)).2 hgap]
  simp

theorem run_gaps {lexer : Lexer} (h : lexer.mode = .gap) {text : List Char}
    (htext : ∀ c ∈ text, isGap c = true) : lexer.run text = lexer := by
  induction text with
  | nil => rfl
  | cons c text ih =>
    have hstep : lexer.step c = lexer := by simp [step, h, htext c List.mem_cons_self]
    rw [run_cons, hstep, ih fun d hd => htext d (List.mem_cons_of_mem _ hd)]

/-- Separators behind a word only end it. -/
theorem finish?_run_gaps {lexer : Lexer} (h : lexer.Settled) {text : List Char}
    (htext : ∀ c ∈ text, isGap c = true) : (lexer.run text).finish? = lexer.finish? := by
  rcases h with hgap | hplain
  · rw [run_gaps hgap htext]
  · cases text with
    | nil => rfl
    | cons c text =>
      have hstep : lexer.step c = ⟨.gap, [], lexer.word.reverse :: lexer.words⟩ := by
        simp [step, hplain, htext c List.mem_cons_self]
      have hmode : (lexer.step c).mode = .gap := by rw [hstep]
      have hrest := run_gaps hmode fun d hd => htext d (List.mem_cons_of_mem _ hd)
      rw [run_cons, hrest, hstep, finish?, finish?, hplain]

/-- A comment goes on to the end of the line. -/
theorem run_comment {lexer : Lexer} (h : lexer.mode = .comment) {text : List Char}
    (htext : '\n' ∉ text) : lexer.run text = lexer := by
  induction text with
  | nil => rfl
  | cons c text ih =>
    rw [List.mem_cons, not_or] at htext
    have hstep : lexer.step c = lexer := by simp [step, h, Ne.symm htext.1]
    rw [run_cons, hstep, ih htext.2]

/-- The lexer is in quotes. -/
def Quoting (lexer : Lexer) : Prop :=
  lexer.mode = .single ∨ lexer.mode = .double ∨ lexer.mode = .doubleEscaped

theorem quoting_run_blank {lexer : Lexer} (h : lexer.Quoting) {text : List Char}
    (htext : ∀ c ∈ text, isBlank c = true) : (lexer.run text).Quoting := by
  induction text generalizing lexer with
  | nil => exact h
  | cons c text ih =>
    obtain ⟨-, hsingle, hdouble, hbackslash⟩ := ne_of_isBlank (htext c List.mem_cons_self)
    refine ih ?_ fun d hd => htext d (List.mem_cons_of_mem _ hd)
    unfold Quoting step push at *
    rcases h with h | h | h <;> rw [h] <;> dsimp only <;> split_ifs <;> simp_all

theorem finish?_of_quoting {lexer : Lexer} (h : lexer.Quoting) : lexer.finish? = none := by
  unfold finish?
  rcases h with h | h | h <;> rw [h]

theorem isSome_finish?_of_settled {lexer : Lexer} (h : lexer.Settled) : lexer.finish?.isSome :=
  finish?_isSome_iff.mpr (h.imp_right Or.inr)

/-- Behind a backslash a blank is a character of a word. -/
theorem isSome_finish?_run_escaped {lexer : Lexer} (h : lexer.mode = .escaped) {text : List Char}
    (hne : text ≠ []) (htext : ∀ c ∈ text, isBlank c = true) (hline : '\n' ∉ text) :
    (lexer.run text).finish?.isSome := by
  obtain ⟨c, rest, rfl⟩ := List.exists_cons_of_ne_nil hne
  rw [List.mem_cons, not_or] at hline
  have hstep : (lexer.step c).mode = .plain := by simp [step, h, Ne.symm hline.1]
  exact isSome_finish?_of_settled
    (settled_run_blank (Or.inr hstep) fun d hd => htext d (List.mem_cons_of_mem _ hd))

/-- Behind a word, a blank that is no separator makes it longer, or it is a word of its own. -/
theorem finish?_run_blank_ne {lexer : Lexer} (h : lexer.Settled) (htidy : lexer.Tidy)
    {text : List Char} (htext : ∀ c ∈ text, isBlank c = true) (hword : ∃ c ∈ text, isGap c = false) :
    lexer.finish? ≠ (lexer.run text).finish? := by
  intro heq
  obtain ⟨words, hwords⟩ := Option.isSome_iff_exists.mp (isSome_finish?_of_settled h)
  have hall := flatten_finish (tidy_run htidy text) (heq ▸ hwords)
  rw [flatten_finish htidy hwords, read_run] at hall
  have hmode : Settled ⟨lexer.mode, [], []⟩ := h
  exact read_run_blank_ne_nil hmode htext hword (List.append_right_eq_self.mp hall.symm)

theorem mode_cases (lexer : Lexer) :
    lexer.mode = .comment ∨ lexer.Quoting ∨ lexer.mode = .escaped ∨ lexer.Settled := by
  unfold Quoting Settled
  cases lexer.mode <;> simp

/-- Blanks that are not all separators change the words before them, unless they are in a comment. -/
theorem finish?_run_blank_iff {lexer : Lexer} (htidy : lexer.Tidy) {text : List Char}
    (htext : ∀ c ∈ text, isBlank c = true) (hline : '\n' ∉ text) :
    lexer.finish? = (lexer.run text).finish? ↔
      (lexer.finish? = none ∧ (lexer.run text).finish? = none) ∨ text = [] ∨ lexer.mode = .comment ∨
        lexer.mode ≠ .escaped ∧ ∀ c ∈ text, isGap c = true := by
  by_cases hnil : text = []
  · simp [hnil]
  rcases lexer.mode_cases with hcomment | hquoting | hescaped | hsettled
  · simp [hcomment, run_comment hcomment hline]
  · simp [finish?_of_quoting hquoting, finish?_of_quoting (quoting_run_blank hquoting htext)]
  · -- The backslash covers the first blank, so there are words only with it.
    have hnone : lexer.finish? = none := by rw [finish?, hescaped]
    have hsome := Option.isSome_iff_ne_none.mp (isSome_finish?_run_escaped hescaped hnil htext hline)
    rw [hnone]
    refine iff_of_false hsome.symm ?_
    simp [hsome, hnil, hescaped]
  · have hsome := Option.isSome_iff_ne_none.mp (isSome_finish?_of_settled hsettled)
    have hmode : lexer.mode ≠ .comment ∧ lexer.mode ≠ .escaped := by
      rcases hsettled with h | h <;> simp [h]
    by_cases hgaps : ∀ c ∈ text, isGap c = true
    · refine iff_of_true (finish?_run_gaps hsettled hgaps).symm ?_
      exact Or.inr (Or.inr (Or.inr ⟨hmode.2, hgaps⟩))
    · have hword : ∃ c ∈ text, isGap c = false := by simpa using hgaps
      refine iff_of_false (finish?_run_blank_ne hsettled htidy htext hword) ?_
      rintro (⟨hnone, -⟩ | h | h | ⟨-, h⟩)
      · exact hsome hnone
      · exact hnil h
      · exact hmode.1 h
      · exact hgaps h

/-- The first character of a word is read alike whether a word had begun or not. -/
theorem step_start {mode : Mode} (h : mode = .gap ∨ mode = .plain) {c : Char} (hgap : isGap c = false)
    (hhash : c ≠ '#') : step ⟨mode, [], []⟩ c = step start c := by
  unfold step start stepPlain push
  rcases h with rfl | rfl <;> simp [hgap, hhash]

/-- A line that begins with no separator has no more to read at the start of a word than in a word. -/
theorem length_read_start_le {mode : Mode} (h : mode = .gap ∨ mode = .plain) {c : Char}
    {rest : List Char} (hgap : isGap c = false) (hline : '\n' ∉ c :: rest) :
    (start.run (c :: rest)).read.length ≤ (run ⟨mode, [], []⟩ (c :: rest)).read.length := by
  by_cases hhash : c = '#'
  · have hcomment : (start.step c).run rest = start.step c := by
      rw [hhash]
      exact run_comment rfl (List.not_mem_of_not_mem_cons hline)
    rw [run_cons, hcomment, hhash]
    exact Nat.zero_le _
  · rw [run_cons, run_cons, step_start h hgap hhash]

end Lexer

/-! ## Words of a trimmed line -/

theorem read_of_split? {text : List Char} {words : List (List Char)} (h : split? text = some words) :
    (Lexer.start.run text).read = words.flatten :=
  (Lexer.flatten_finish (Lexer.tidy_run Lexer.tidy_start text) h).symm

/-- What is trimmed off separates words, or it is the end of a comment. -/
def TrimsSafely (text : List Char) : Prop :=
  (∀ c ∈ leading text, isGap c = true) ∧
    (trailing text = [] ∨ (Lexer.start.run (trim text)).mode = .comment ∨
      (Lexer.start.run (trim text)).mode ≠ .escaped ∧ ∀ c ∈ trailing text, isGap c = true)

/-- A blank that is no separator is part of the first word, or it is the first word. -/
theorem split?_eq_none_of_leading {lead rest after : List Char} {c : Char}
    (hlead : ∀ d ∈ lead, isBlank d = true) (hword : ∃ d ∈ lead, isGap d = false)
    (hgap : isGap c = false) (hline : '\n' ∉ c :: rest)
    (h : split? (c :: rest) = split? (lead ++ (c :: rest ++ after))) : split? (c :: rest) = none := by
  by_contra hsome
  obtain ⟨words, hwords⟩ := Option.ne_none_iff_exists'.mp hsome
  have hstart : Lexer.start.Settled := Or.inl rfl
  have hmode := Lexer.settled_run_blank hstart hlead
  have hread : 0 < (Lexer.start.run lead).read.length :=
    List.length_pos_of_ne_nil (Lexer.read_run_blank_ne_nil hstart hlead hword)
  have hle := Lexer.length_read_start_le hmode hgap hline
  have hall := read_of_split? (h ▸ hwords)
  rw [← read_of_split? hwords, Lexer.run_append, Lexer.read_run, Lexer.run_append,
    Lexer.read_run (Lexer.run _ (c :: rest))] at hall
  have hlength := congrArg List.length hall
  rw [List.length_append, List.length_append] at hlength
  omega

/-- Trimming keeps the words of a line exactly if it is safe, or if there are no words to keep. -/
theorem split?_trim_iff {text : List Char} (hline : '\n' ∉ text) (hne : trim text ≠ []) :
    split? (trim text) = split? text ↔
      (split? (trim text) = none ∧ split? text = none) ∨ TrimsSafely text := by
  have hparts := Text.leading_append_trim_append_trailing text
  have hleading : ∀ c ∈ leading text, isBlank c = true := fun c hc => Text.isBlank_of_mem_leading hc
  have htrailing : ∀ c ∈ trailing text, isBlank c = true := fun c hc => Text.isBlank_of_mem_trailing hc
  have hlines : '\n' ∉ trim text ++ trailing text := fun h =>
    hline (hparts ▸ List.mem_append_right _ h)
  rw [List.mem_append, not_or] at hlines
  by_cases hgaps : ∀ c ∈ leading text, isGap c = true
  · have hsplit : split? text = split? (trim text ++ trailing text) := by
      conv_lhs => rw [← hparts, split?, Lexer.run_append, Lexer.run_gaps rfl hgaps]
      rfl
    have htidy := Lexer.tidy_run Lexer.tidy_start (trim text)
    rw [hsplit, TrimsSafely, and_iff_right hgaps, split?, split?, Lexer.run_append]
    exact Lexer.finish?_run_blank_iff htidy htrailing hlines.2
  · have hword : ∃ c ∈ leading text, isGap c = false := by simpa using hgaps
    obtain ⟨c, rest, htrim⟩ := List.exists_cons_of_ne_nil hne
    have hgap := Lexer.isGap_eq_false (Text.isBlank_head_trim htrim)
    rw [TrimsSafely, or_iff_left fun h => hgaps h.1]
    constructor
    · intro h
      have hnone : split? (trim text) = none := by
        rw [htrim]
        rw [htrim] at hlines hparts h
        have hwhole : split? (c :: rest) = split? (leading text ++ (c :: rest ++ trailing text)) := by
          rw [h, hparts]
        exact split?_eq_none_of_leading hleading hword hgap hlines.1 hwhole
      exact ⟨hnone, h ▸ hnone⟩
    · rintro ⟨hnone, hall⟩
      rw [hnone, hall]

theorem ofLine_eq_iff {a b : String} : ofLine a = ofLine b ↔ split? a.toList = split? b.toList := by
  have hinj : Function.Injective (List.map String.ofList) :=
    List.map_injective_iff.mpr fun _ _ h => String.ofList_injective h
  unfold ofLine
  cases ha : split? a.toList <;> cases hb : split? b.toList <;> simp [hinj.eq_iff]

theorem ofLine_eq_error_iff {line : String} :
    ofLine line = .error .unbalanced ↔ split? line.toList = none := by
  unfold ofLine
  cases split? line.toList <;> simp

end Word

/-! ## Logical lines -/

namespace Line

/-- Each character of glued lines is one of a line. -/
theorem exists_of_mem_glue {group : List String} {c : Char} (h : c ∈ (glue group).toList) :
    ∃ line ∈ group, c ∈ line.toList := by
  rw [glue, String.toList_join, List.flatMap_map] at h
  obtain ⟨line, hline, hc⟩ := List.mem_flatMap.mp h
  refine ⟨line, hline, ?_⟩
  unfold fragment? at hc
  split_ifs at hc
  · rw [Option.getD_some, String.toList_ofList] at hc
    exact (List.dropLast_sublist _).subset hc
  · exact hc

/-- Glued lines hold no break that none of them holds. -/
theorem not_mem_breaks_of_glue {group : List String}
    (h : ∀ line ∈ group, ∀ c ∈ line.toList, c ∉ breaks) : ∀ c ∈ (glue group).toList, c ∉ breaks := by
  intro c hc
  obtain ⟨line, hline, hmem⟩ := exists_of_mem_glue hc
  exact h line hline c hmem

theorem mem_of_mem_groups {lines group : List String} (h : group ∈ groups lines) :
    ∀ line ∈ group, line ∈ lines := by
  intro line hline
  rw [← List.flatten_splitBy (fun line _ => continues line) lines]
  exact List.mem_flatten_of_mem h hline

theorem mem_of_mem_readable {lines group : List String} (h : group ∈ readable lines) :
    ∀ line ∈ group, line ∈ lines :=
  mem_of_mem_groups ((List.takeWhile_sublist _).subset h)

/-- Each logical line is the text of a group. -/
theorem exists_group_of_texts {groups : List (List String)} {k : Nat} {line : String}
    (h : (texts groups)[k]? = some line) :
    ∃ before group after, groups = before ++ group :: after ∧ (texts before).length = k ∧
      text group = line ∧ line ≠ "" := by
  induction groups generalizing k with
  | nil => cases h
  | cons first groups ih =>
    rw [texts_cons] at h
    by_cases hblank : text first = ""
    · rw [if_pos hblank, List.nil_append] at h
      obtain ⟨before, group, after, rfl, hk, hline⟩ := ih h
      exact ⟨first :: before, group, after, rfl, by rwa [texts_cons, if_pos hblank], hline⟩
    · rw [if_neg hblank, List.singleton_append] at h
      cases k with
      | zero =>
        obtain rfl : text first = line := Option.some.inj h
        exact ⟨[], first, groups, rfl, rfl, rfl, hblank⟩
      | succ k =>
        obtain ⟨before, group, after, rfl, hk, hline⟩ := ih h
        refine ⟨first :: before, group, after, rfl, ?_, hline⟩
        rw [texts_cons, if_neg hblank, List.singleton_append, List.length_cons, hk]

end Line

namespace Splitter

open Line (glue readable text texts)
open Word (TrimsSafely ofLine)

theorem broken?_of_ofBlock {block : Block} {splitter : Splitter} (h : ofBlock block = .ok splitter) :
    block.broken? = none := by
  unfold ofBlock at h
  split at h
  · cases h
  · assumption

/-- A pull that gives a logical line reads up to the end of its group. -/
theorem exists_group_of_nth {lines : List String} {k : Nat} {line : String}
    (h : ((ofLines lines).nth k).item = some (.ok line)) :
    ∃ before group after, readable lines = before ++ group :: after ∧
      (ofLines lines).seen (k + 1) = before.flatten ++ group ∧ text group = line ∧ line ≠ "" := by
  have hfollows := followsGroups lines
  rw [hfollows.item, expected, List.getElem?_append] at h
  split_ifs at h with hk
  · rw [List.getElem?_map, Option.map_eq_some_iff] at h
    obtain ⟨found, hfound, hline⟩ := h
    obtain rfl := Except.ok.inj hline
    obtain ⟨before, group, after, hreadable, rfl, htext, hne⟩ := Line.exists_group_of_texts hfound
    exact ⟨before, group, after, hreadable, hfollows.upTo before group after hreadable (htext ▸ hne),
      htext, hne⟩
  · obtain ⟨error, -, herror⟩ := List.mem_map.mp (List.mem_of_getElem? h)
    cases herror

/-- **A logical line keeps its words if it was trimmed safely.** The line that a pull gives is the
trimmed text of the lines glued for it, which are the last ones that were read. Both have the same words
exactly if only separators are trimmed off, none of them behind a backslash, or characters of a comment;
otherwise they agree only in that neither has words. -/
theorem trimmed_keeps_words {block : Block} {splitter : Splitter} (h : ofBlock block = .ok splitter)
    {k : Nat} {line : String} (hline : (splitter.nth k).item = some (.ok line)) :
    ∃ before group after, readable block.physicalLines = before ++ group :: after ∧
      splitter.seen (k + 1) = before.flatten ++ group ∧
      line.toList = Text.trim (glue group).toList ∧
      (ofLine line = ofLine (glue group) ↔
        (ofLine line = .error .unbalanced ∧ ofLine (glue group) = .error .unbalanced) ∨
          TrimsSafely (glue group).toList) := by
  have hbroken := broken?_of_ofBlock h
  obtain rfl := eq_ofLines_of_ofBlock h
  obtain ⟨before, group, after, hreadable, hseen, htext, hne⟩ := exists_group_of_nth hline
  have htrim : line.toList = Text.trim (glue group).toList := by
    rw [← htext, text, String.toList_ofList]
  refine ⟨before, group, after, hreadable, hseen, htrim, ?_⟩
  have hfree : ∀ c ∈ (glue group).toList, c ∉ Line.breaks := by
    have hgroup : group ∈ readable block.physicalLines := by rw [hreadable]; simp
    refine Line.not_mem_breaks_of_glue fun physical hphysical => ?_
    exact Block.not_mem_breaks_of_broken? hbroken physical
      (Line.mem_of_mem_readable hgroup physical hphysical)
  have hnotBlank : Text.trim (glue group).toList ≠ [] := by
    rw [← htrim]
    exact mt String.toList_eq_nil_iff.mp hne
  rw [Word.ofLine_eq_iff, Word.ofLine_eq_error_iff, Word.ofLine_eq_error_iff, htrim]
  exact Word.split?_trim_iff (fun hmem => hfree _ hmem (by decide)) hnotBlank

/-- Separators in front, a line that goes on, and a blank in a comment that is no separator. -/
theorem trimmed_keeps_words_comment :
    ofBlock (.lines ["\t echo \\", "a # b\u00A0"]) = .ok (ofLines ["\t echo \\", "a # b\u00A0"]) ∧
      ((ofLines ["\t echo \\", "a # b\u00A0"]).nth 0).item = some (.ok "echo a # b") ∧
      glue ["\t echo \\", "a # b\u00A0"] = "\t echo a # b\u00A0" ∧
      ofLine "echo a # b" = ofLine "\t echo a # b\u00A0" := by
  have hblock : ofBlock (.lines ["\t echo \\", "a # b\u00A0"]) =
      .ok (ofLines ["\t echo \\", "a # b\u00A0"]) := by rfl
  have hitem : ((ofLines ["\t echo \\", "a # b\u00A0"]).nth 0).item =
      some (.ok "echo a # b") := by rfl
  have hglue : glue ["\t echo \\", "a # b\u00A0"] = "\t echo a # b\u00A0" := by decide +kernel
  have hreadable : readable ["\t echo \\", "a # b\u00A0"] = [["\t echo \\", "a # b\u00A0"]] := by
    decide +kernel
  obtain ⟨before, group, after, hsplit, -, -, hwords⟩ := trimmed_keeps_words hblock hitem
  have hgroup : group ∈ readable ["\t echo \\", "a # b\u00A0"] := by
    change group ∈ readable (Block.lines _).physicalLines
    rw [hsplit]
    simp
  rw [hreadable, List.mem_singleton] at hgroup
  rw [hgroup, hglue] at hwords
  have hsafe : TrimsSafely "\t echo a # b\u00A0".toList :=
    ⟨List.all_eq_true.mp (by rfl), Or.inr (Or.inl (by rfl))⟩
  exact ⟨hblock, hitem, hglue, hwords.mpr (Or.inr hsafe)⟩

/-- Trimmed without care, a line is refused for the backslash that is left at its end, and another one
turns into a comment. -/
theorem trimmed_loses_words :
    (ofBlock (.lines ["echo a\\ "]) = .ok (ofLines ["echo a\\ "]) ∧
      ((ofLines ["echo a\\ "]).nth 0).item = some (.ok "echo a\\") ∧
      glue ["echo a\\ "] = "echo a\\ " ∧ ofLine "echo a\\ " = .ok ["echo", "a "] ∧
      ofLine "echo a\\" = .error .unbalanced) ∧
    (ofBlock (.lines ["\u00A0#b"]) = .ok (ofLines ["\u00A0#b"]) ∧
      ((ofLines ["\u00A0#b"]).nth 0).item = some (.ok "#b") ∧
      glue ["\u00A0#b"] = "\u00A0#b" ∧ ofLine "\u00A0#b" = .ok ["\u00A0#b"] ∧ ofLine "#b" = .ok []) := by
  refine ⟨⟨by rfl, by rfl, by rfl, by rfl, by rfl⟩, ⟨by rfl, by rfl, by rfl, by rfl, by rfl⟩⟩

end Splitter

end Runbook
