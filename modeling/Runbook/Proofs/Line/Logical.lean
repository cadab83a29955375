import Runbook.Proofs.Line.Trimming

/-!
# What logical lines have in common

`IsLogical` holds of every logical line, whether it is expected of a block
(`isLogical_of_mem_expected`) or comes of a pull (`isLogical_of_nth`): its first character is not
blank, and it holds no break.
-/

namespace Runbook

open Text (isBlank)

namespace Text

theorem mem_of_mem_trim {text : List Char} {c : Char} (h : c ∈ trim text) : c ∈ text := by
  rw [← leading_append_trim_append_trailing text]
  exact List.mem_append_right _ (List.mem_append_left _ h)

end Text

namespace Line

/-- A line that is trimmed, not empty and not to be cut. -/
structure IsLogical (line : String) : Prop where
  starts : ∃ c rest, line.toList = c :: rest ∧ isBlank c = false
  free : ∀ c ∈ line.toList, c ∉ breaks

theorem isLogical_of_text {group : List String}
    (hfree : ∀ line ∈ group, ∀ c ∈ line.toList, c ∉ breaks) (hne : text group ≠ "") :
    IsLogical (text group) := by
  have htext : (text group).toList = Text.trim (glue group).toList := String.toList_ofList
  refine ⟨?_, fun c hc => ?_⟩
  · cases htrim : Text.trim (glue group).toList with
    | nil => exact absurd (String.toList_eq_nil_iff.mp (htext.trans htrim)) hne
    | cons c rest => exact ⟨c, rest, htext.trans htrim, Text.isBlank_head_trim htrim⟩
  · rw [htext] at hc
    exact not_mem_breaks_of_glue hfree c (Text.mem_of_mem_trim hc)

theorem isLogical_of_mem_texts {lines : List String}
    (hfree : ∀ line ∈ lines, ∀ c ∈ line.toList, c ∉ breaks) {line : String}
    (h : line ∈ texts (readable lines)) : IsLogical line := by
  obtain ⟨hmem, hne⟩ := List.mem_filter.mp h
  obtain ⟨group, hgroup, rfl⟩ := List.mem_map.mp hmem
  refine isLogical_of_text (fun physical hphysical => ?_) (of_decide_eq_true hne)
  exact hfree physical (mem_of_mem_readable hgroup physical hphysical)

end Line

namespace Splitter

theorem isLogical_of_mem_expected {lines : List String}
    (hfree : ∀ line ∈ lines, ∀ c ∈ line.toList, c ∉ Line.breaks) {line : String}
    (h : .ok line ∈ expected lines) : Line.IsLogical line := by
  have hmem : line ∈ (expected lines).filterMap Except.toOption :=
    List.mem_filterMap.mpr ⟨.ok line, h, rfl⟩
  rw [expected_lines] at hmem
  exact Line.isLogical_of_mem_texts hfree hmem

theorem isLogical_of_nth {block : Block} {splitter : Splitter}
    (h : ofBlock block = .ok splitter) {k : Nat} {line : String}
    (hline : (splitter.nth k).item = some (.ok line)) : Line.IsLogical line := by
  have hfree := Block.not_mem_breaks_of_broken? (broken?_of_ofBlock h)
  obtain rfl := eq_ofLines_of_ofBlock h
  rw [(followsGroups block.physicalLines).item] at hline
  exact isLogical_of_mem_expected hfree (List.mem_of_getElem? hline)

end Splitter

end Runbook
