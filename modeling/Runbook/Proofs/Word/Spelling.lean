import Mathlib.Data.List.Basic
import Runbook.Word

/-!
# Spelling words

How a word may be written for a shell, apart from how the chunks are chosen.

* `Spells`: a text is written part by part, as it is, in single quotes or in double quotes, and no part
  holds a character that its quotes do not cover.
* `Styles.Fits`: the styles of a chunk allow all its characters, and there is one. This is kept while a
  chunk is read (`Styles.Fits.narrow`) and holds when one begins (`fits_opening`).
* `spells_quote`: each word is spelled by what it is quoted as.
-/

namespace Runbook.Word

/-- The first text is written as the second. -/
inductive Spells : List Char → List Char → Prop where
  | nil : Spells [] []
  /-- A character that needs no quotes. -/
  | plain {c : Char} {text written : List Char} (hplain : allowsPlain c = true)
    (hrest : Spells text written) : Spells (c :: text) (c :: written)
  /-- A part in single quotes. -/
  | single {part text written : List Char} (hsingle : '\'' ∉ part) (hrest : Spells text written) :
    Spells (part ++ text) (('\'' :: part ++ ['\'']) ++ written)
  /-- A part in double quotes. -/
  | double {part text written : List Char} (hdouble : ∀ c ∈ part, allowsDouble c = true)
    (hrest : Spells text written) :
    Spells (part ++ text) (('"' :: part.flatMap quoteDouble ++ ['"']) ++ written)

theorem Spells.plain_append {part text written : List Char} (hplain : ∀ c ∈ part, allowsPlain c = true)
    (hrest : Spells text written) : Spells (part ++ text) (part ++ written) := by
  induction part with
  | nil => exact hrest
  | cons c part ih =>
    exact .plain (hplain c List.mem_cons_self) (ih fun d hd => hplain d (List.mem_cons_of_mem _ hd))

theorem Spells.eq_nil {text : List Char} (h : Spells text []) : text = [] := by
  generalize hwritten : ([] : List Char) = written at h
  cases h with
  | nil => rfl
  | plain => cases hwritten
  | single => cases hwritten
  | double => cases hwritten

/-! ## Chunks -/

/-- The styles allow all characters of the chunk, and one of them is left. -/
structure Styles.Fits (styles : Styles) (chunk : List Char) : Prop where
  plain : styles.plain = true → ∀ c ∈ chunk, allowsPlain c = true
  single : styles.single = true → '\'' ∉ chunk
  double : styles.double = true → ∀ c ∈ chunk, allowsDouble c = true
  any : styles.any = true

theorem Styles.Fits.reverse {styles : Styles} {chunk : List Char} (h : styles.Fits chunk) :
    styles.Fits chunk.reverse where
  plain hplain c hc := h.plain hplain c (List.mem_reverse.mp hc)
  single hsingle hc := h.single hsingle (List.mem_reverse.mp hc)
  double hdouble c hc := h.double hdouble c (List.mem_reverse.mp hc)
  any := h.any

theorem ne_quote_of_allowsSingle {c : Char} (h : allowsSingle c = true) : c ≠ '\'' := by
  rintro rfl
  cases h

/-- A chunk goes on while a style is left. -/
theorem Styles.Fits.narrow {styles : Styles} {chunk : List Char} (h : styles.Fits chunk) {c : Char}
    (hany : (styles.narrow c).any = true) : (styles.narrow c).Fits (c :: chunk) where
  plain hplain := by
    rw [Styles.narrow, Bool.and_eq_true] at hplain
    exact List.forall_mem_cons.mpr ⟨hplain.2, h.plain hplain.1⟩
  single hsingle := by
    rw [Styles.narrow, Bool.and_eq_true] at hsingle
    rw [List.mem_cons, not_or]
    exact ⟨(ne_quote_of_allowsSingle hsingle.2).symm, h.single hsingle.1⟩
  double hdouble := by
    rw [Styles.narrow, Bool.and_eq_true] at hdouble
    exact List.forall_mem_cons.mpr ⟨hdouble.2, h.double hdouble.1⟩
  any := hany

/-- What single quotes do not cover, double quotes do, but for the caret. -/
theorem allowsDouble_of_not_allowsSingle {c : Char} (hcaret : c ≠ '^') (h : allowsSingle c = false) :
    allowsDouble c = true := by
  have hc : c = '\'' ∨ c = '\\' := by
    by_contra hne
    rw [not_or] at hne
    simp [allowsSingle, hcaret, hne.1, hne.2] at h
  rcases hc with rfl | rfl <;> rfl

/-- A chunk may begin with any character. -/
theorem fits_opening (c : Char) : (Styles.opening c).Fits [c] := by
  by_cases hcaret : c = '^'
  · rw [hcaret]
    exact ⟨fun h => (nomatch h), fun _ => (by decide), fun h => (nomatch h), rfl⟩
  · have hempty : Styles.Fits ⟨true, true, true⟩ [] :=
      ⟨fun _ d hd => (nomatch hd), fun _ hd => (nomatch hd), fun _ d hd => (nomatch hd), rfl⟩
    rw [Styles.opening, if_neg hcaret]
    refine hempty.narrow ?_
    by_cases hsingle : allowsSingle c
    · simp [Styles.narrow, Styles.any, hsingle]
    · have hdouble := allowsDouble_of_not_allowsSingle hcaret (by simpa using hsingle)
      simp [Styles.narrow, Styles.any, hdouble]

theorem spells_quoteChunk {styles : Styles} {chunk : List Char} (h : styles.Fits chunk)
    {text written : List Char} (hrest : Spells text written) :
    Spells (chunk ++ text) (quoteChunk (styles, chunk) ++ written) := by
  unfold quoteChunk
  split_ifs with hplain hsingle
  · exact hrest.plain_append (h.plain hplain)
  · exact .single (h.single hsingle) hrest
  · have hany := h.any
    rw [Styles.any, Bool.or_eq_true, Bool.or_eq_true] at hany
    exact .double (h.double (hany.resolve_left (not_or.mpr ⟨hplain, hsingle⟩))) hrest

theorem spells_chunks {styles : Styles} {chunk : List Char} (h : styles.Fits chunk) (text : List Char) :
    Spells (chunk.reverse ++ text) ((chunks styles chunk text).flatMap quoteChunk) := by
  fun_induction chunks styles chunk text with
  | case1 styles chunk => exact spells_quoteChunk h.reverse .nil
  | case2 styles chunk c rest hany ih =>
    have hrest := ih (h.narrow hany)
    rwa [List.reverse_cons, List.append_assoc] at hrest
  | case3 styles chunk c rest _ ih => exact spells_quoteChunk h.reverse (ih (fits_opening c))

/-- A word is quoted so that it is spelled. -/
theorem spells_quote (word : List Char) : Spells word (quote word) := by
  cases word with
  | nil => exact .single List.not_mem_nil .nil
  | cons c rest => exact spells_chunks (fits_opening c) rest

theorem quote_ne_nil (word : List Char) : quote word ≠ [] := by
  intro h
  have hword := h ▸ spells_quote word
  rw [hword.eq_nil] at h
  cases h

/-! ## Words -/

/-- Words that have more behind them. -/
theorem intercalate_quote_cons (word next : List Char) (words : List (List Char)) :
    [' '].intercalate ((word :: next :: words).map quote) =
      quote word ++ ' ' :: [' '].intercalate ((next :: words).map quote) := by
  rw [List.map_cons, List.map_cons, List.intercalate_cons_cons, List.append_assoc]
  rfl

/-- Words quoted one after the other, with a space between any two. -/
def quoted (words : List String) : String :=
  String.ofList ([' '].intercalate ((words.map String.toList).map quote))

/-- No word holds the character zero. -/
def Quotable (words : List String) : Prop := ∀ word ∈ words, '\x00' ∉ word.toList

instance (words : List String) : Decidable (Quotable words) :=
  inferInstanceAs (Decidable (∀ word ∈ words, '\x00' ∉ word.toList))

theorem toLine_eq (words : List String) :
    toLine words = if Quotable words then .ok (quoted words) else .error .nul := by
  have hnul : (words.map String.toList).any (·.contains '\x00') = true ↔ ¬ Quotable words := by
    simp [Quotable]
  by_cases h : Quotable words
  · rw [if_pos h, toLine, join?, if_neg fun hany => hnul.mp hany h]
    rfl
  · rw [if_neg h, toLine, join?, if_pos (hnul.mpr h)]

theorem toLine_eq_ok_iff {words : List String} {command : String} :
    toLine words = .ok command ↔ Quotable words ∧ quoted words = command := by
  rw [toLine_eq]
  split_ifs with h <;> simp [h]

end Runbook.Word
