import Runbook.Proofs.Word.Comments
import Runbook.Proofs.Word.Spelling

/-!
# Reading quoted words back

The lexer reads spelled words as they were.

* `run_plain`, `run_single` and `run_double` read one part of a spelled word, at the start of a word or
  in it; `run_spelled` puts them together.
* `split?_intercalate`: quoted words with a space between any two are read as the same words.
-/

namespace Runbook.Word

namespace Lexer

/-! ## Parts of a word -/

theorem ne_of_allowsPlain {c : Char} (h : allowsPlain c = true) :
    isGap c = false ∧ c ≠ '#' ∧ c ≠ '\'' ∧ c ≠ '"' ∧ c ≠ '\\' := by
  refine ⟨?_, ?_, ?_, ?_, ?_⟩
  · by_contra hgap
    simp only [isGap, Bool.not_eq_false, Bool.or_eq_true, beq_iff_eq] at hgap
    rcases hgap with (rfl | rfl) | rfl <;> cases h
  all_goals rintro rfl; cases h

theorem step_plain {lexer : Lexer} (h : lexer.Settled) {c : Char} (hc : allowsPlain c = true) :
    lexer.step c = ⟨.plain, c :: lexer.word, lexer.words⟩ := by
  obtain ⟨hgap, hhash, hsingle, hdouble, hbackslash⟩ := ne_of_allowsPlain hc
  unfold step stepPlain push
  rcases h with h | h <;> rw [h] <;> simp [hgap, hhash, hsingle, hdouble, hbackslash]

/-- A quote goes on in the word or begins it. -/
theorem step_quote {lexer : Lexer} (h : lexer.Settled) :
    lexer.step '\'' = ⟨.single, lexer.word, lexer.words⟩ ∧
      lexer.step '"' = ⟨.double, lexer.word, lexer.words⟩ := by
  unfold step stepPlain
  rcases h with h | h <;> rw [h] <;> simp [isGap]

theorem run_in_single {part : List Char} (h : '\'' ∉ part) (word : List Char)
    (words : List (List Char)) :
    run ⟨.single, word, words⟩ part = ⟨.single, part.reverse ++ word, words⟩ := by
  induction part generalizing word with
  | nil => rfl
  | cons c part ih =>
    rw [List.mem_cons, not_or] at h
    have hstep : step ⟨.single, word, words⟩ c = ⟨.single, c :: word, words⟩ := by
      simp [step, push, Ne.symm h.1]
    rw [run_cons, hstep, ih h.2, List.reverse_cons, List.append_assoc]
    rfl

theorem run_single {lexer : Lexer} (h : lexer.Settled) {part : List Char} (hpart : '\'' ∉ part) :
    lexer.run ('\'' :: part ++ ['\'']) = ⟨.plain, part.reverse ++ lexer.word, lexer.words⟩ := by
  rw [List.cons_append, run_cons, (step_quote h).1, run_append, run_in_single hpart]
  rfl

theorem run_quoteDouble {c : Char} (h : allowsDouble c = true) (word : List Char)
    (words : List (List Char)) :
    run ⟨.double, word, words⟩ (quoteDouble c) = ⟨.double, c :: word, words⟩ := by
  unfold quoteDouble
  split_ifs with hc
  · rcases hc with rfl | rfl <;> rfl
  · rw [not_or] at hc
    simp [run, step, push, hc.1, hc.2]

theorem run_in_double {part : List Char} (h : ∀ c ∈ part, allowsDouble c = true) (word : List Char)
    (words : List (List Char)) :
    run ⟨.double, word, words⟩ (part.flatMap quoteDouble) =
      ⟨.double, part.reverse ++ word, words⟩ := by
  induction part generalizing word with
  | nil => rfl
  | cons c part ih =>
    have hpart := ih (fun d hd => h d (List.mem_cons_of_mem _ hd)) (c :: word)
    rw [List.flatMap_cons, run_append, run_quoteDouble (h c List.mem_cons_self), hpart,
      List.reverse_cons, List.append_assoc]
    rfl

theorem run_double {lexer : Lexer} (h : lexer.Settled) {part : List Char}
    (hpart : ∀ c ∈ part, allowsDouble c = true) :
    lexer.run ('"' :: part.flatMap quoteDouble ++ ['"']) =
      ⟨.plain, part.reverse ++ lexer.word, lexer.words⟩ := by
  rw [List.cons_append, run_cons, (step_quote h).2, run_append, run_in_double hpart]
  rfl

/-! ## Words -/

/-- In a word, a spelled text is read as it is. -/
theorem run_spelled_plain {text written : List Char} (h : Spells text written) (word : List Char)
    (words : List (List Char)) :
    run ⟨.plain, word, words⟩ written = ⟨.plain, text.reverse ++ word, words⟩ := by
  have hsettled : ∀ word, Settled ⟨.plain, word, words⟩ := fun word => Or.inr rfl
  induction h generalizing word with
  | nil => rfl
  | plain hplain _ ih =>
    rw [run_cons, step_plain (hsettled word) hplain, ih]
    simp
  | single hsingle _ ih =>
    rw [run_append, run_single (hsettled word) hsingle, ih]
    simp
  | double hdouble _ ih =>
    rw [run_append, run_double (hsettled word) hdouble, ih]
    simp

/-- So it is at the start of a word, which it begins even if it is empty. -/
theorem run_spelled {text written : List Char} (h : Spells text written) (hne : written ≠ [])
    {lexer : Lexer} (hsettled : lexer.Settled) :
    lexer.run written = ⟨.plain, text.reverse ++ lexer.word, lexer.words⟩ := by
  cases h with
  | nil => exact absurd rfl hne
  | plain hplain hrest =>
    rw [run_cons, step_plain hsettled hplain, run_spelled_plain hrest]
    simp
  | single hsingle hrest =>
    rw [run_append, run_single hsettled hsingle, run_spelled_plain hrest]
    simp
  | double hdouble hrest =>
    rw [run_append, run_double hsettled hdouble, run_spelled_plain hrest]
    simp

theorem run_quote (word : List Char) (words : List (List Char)) :
    run ⟨.gap, [], words⟩ (quote word) = ⟨.plain, word.reverse, words⟩ := by
  have hgap : Settled ⟨.gap, [], words⟩ := Or.inl rfl
  rw [run_spelled (spells_quote word) (quote_ne_nil word) hgap, List.append_nil]

/-- Words that are read behind others. -/
theorem finish?_run_intercalate (words before : List (List Char)) :
    (run ⟨.gap, [], before⟩ ([' '].intercalate (words.map quote))).finish? =
      some (before.reverse ++ words) := by
  induction words generalizing before with
  | nil => rw [List.append_nil]; rfl
  | cons word words ih =>
    cases words with
    | nil =>
      rw [List.map_cons, List.map_nil, List.intercalate_singleton, run_quote, finish?]
      simp
    | cons next words =>
      have hspace : step ⟨.plain, word.reverse, before⟩ ' ' = ⟨.gap, [], word :: before⟩ := by
        simp [step, isGap]
      rw [intercalate_quote_cons, run_append, run_quote, run_cons, hspace, ih, List.reverse_cons,
        List.append_assoc]
      rfl

end Lexer

/-- Quoted words are read back. -/
theorem split?_intercalate (words : List (List Char)) :
    split? ([' '].intercalate (words.map quote)) = some words :=
  Lexer.finish?_run_intercalate words []

theorem ofLine_quoted (words : List String) : ofLine (quoted words) = .ok words := by
  rw [ofLine_eq_ok_iff, quoted, String.toList_ofList]
  refine ⟨words.map String.toList, split?_intercalate _, ?_⟩
  rw [List.map_map]
  exact (List.map_congr_left fun word _ => String.ofList_toList).trans (List.map_id _)

theorem ofLine_of_toLine {words : List String} {command : String} (h : toLine words = .ok command) :
    ofLine command = .ok words := by
  rw [← (toLine_eq_ok_iff.mp h).2]
  exact ofLine_quoted words

end Runbook.Word
