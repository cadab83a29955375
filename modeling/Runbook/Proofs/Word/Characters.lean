import Runbook.Proofs.Line.Trimming
import Runbook.Proofs.Word.Cover

/-!
# What words are made of

* `mem_of_mem_ofLine`: the words of a line hold characters of the line, and backslashes.
* `mem_of_mem_quoted`: words as they are quoted hold characters of the words, spaces and what quotes.
-/

namespace Runbook.Word

/-! ## Words that are read -/

namespace Lexer

theorem mem_of_mem_read_step {mode : Mode} {c d : Char} (h : d ∈ (step ⟨mode, [], []⟩ c).read) :
    d = c ∨ d = '\\' := by
  unfold read step stepPlain push at h
  cases mode <;> dsimp only at h <;> split_ifs at h <;> simp at h <;> tauto

theorem mem_of_mem_read_run {mode : Mode} {text : List Char} {d : Char}
    (h : d ∈ (run ⟨mode, [], []⟩ text).read) : d ∈ text ∨ d = '\\' := by
  induction text generalizing mode with
  | nil => cases h
  | cons c text ih =>
    rw [run_cons, read_run, List.mem_append] at h
    rcases h with hstep | hrest
    · rcases mem_of_mem_read_step hstep with rfl | rfl
      · exact .inl List.mem_cons_self
      · exact .inr rfl
    · exact (ih hrest).imp_left (List.mem_cons_of_mem c)

end Lexer

/-- The words of a line hold its characters, and backslashes. -/
theorem mem_of_mem_ofLine {line : String} {words : List String} (h : ofLine line = .ok words)
    {word : String} (hword : word ∈ words) {d : Char} (hd : d ∈ word.toList) :
    d ∈ line.toList ∨ d = '\\' := by
  obtain ⟨texts, hsplit, rfl⟩ := ofLine_eq_ok_iff.mp h
  have hmem : d ∈ texts.flatten := by
    rw [← flatMap_toList_map_ofList]
    exact List.mem_flatMap.mpr ⟨word, hword, hd⟩
  rw [← read_of_split? hsplit] at hmem
  exact Lexer.mem_of_mem_read_run hmem

/-! ## Words that are quoted -/

/-- The characters that quote others. -/
def quotes : List Char := ['\'', '"', '\\']

theorem mem_of_mem_enclosed {quote d : Char} {body : List Char} (h : d ∈ quote :: body ++ [quote]) :
    d = quote ∨ d ∈ body := by
  rw [List.mem_append, List.mem_cons, List.mem_singleton] at h
  tauto

theorem mem_of_mem_quoteDouble {c d : Char} (h : d ∈ quoteDouble c) : d = c ∨ d ∈ quotes := by
  unfold quoteDouble at h
  split_ifs at h <;> simp [quotes] at h ⊢ <;> tauto

theorem Spells.mem {text written : List Char} (h : Spells text written) {d : Char} (hd : d ∈ written) :
    d ∈ text ∨ d ∈ quotes := by
  induction h with
  | nil => cases hd
  | plain _ _ ih =>
    rcases List.mem_cons.mp hd with rfl | hd
    · exact .inl List.mem_cons_self
    · exact (ih hd).imp_left (List.mem_cons_of_mem _)
  | single _ _ ih =>
    rw [List.mem_append] at hd ⊢
    rcases hd with hd | hd
    · rcases mem_of_mem_enclosed hd with rfl | hd
      · exact .inr (by decide)
      · exact .inl (.inl hd)
    · exact (ih hd).imp_left .inr
  | double _ _ ih =>
    rw [List.mem_append] at hd ⊢
    rcases hd with hd | hd
    · rcases mem_of_mem_enclosed hd with rfl | hd
      · exact .inr (by decide)
      · obtain ⟨c, hc, hd⟩ := List.mem_flatMap.mp hd
        rcases mem_of_mem_quoteDouble hd with rfl | hd
        · exact .inl (.inl hc)
        · exact .inr hd
    · exact (ih hd).imp_left .inr

/-- Quoted words hold their characters, spaces and what quotes. -/
theorem mem_of_mem_quoted {words : List String} {d : Char} (h : d ∈ (quoted words).toList) :
    d = ' ' ∨ d ∈ quotes ∨ ∃ word ∈ words, d ∈ word.toList := by
  rw [quoted, String.toList_ofList, List.map_map] at h
  rcases Cover.eq_or_mem_of_mem_intercalate h with rfl | ⟨written, hwritten, hd⟩
  · exact .inl rfl
  · obtain ⟨word, hword, rfl⟩ := List.mem_map.mp hwritten
    rcases (spells_quote word.toList).mem hd with hd | hd
    · exact .inr (.inr ⟨word, hword, hd⟩)
    · exact .inr (.inl hd)

end Runbook.Word
