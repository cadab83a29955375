import Mathlib.Data.String.Basic
import Runbook.Proofs.Line.Pulls

/-!
# Physical lines of a text

The lines of a text are read off byte offsets. Here they are the lines of the one way to take the text
apart at its breaks.

* `Decomposes`: a text as lines without breaks, each with the break behind it; a carriage return in
  front of a line feed is no break of its own, and only a last line that is not empty may lack its break.
* `pieces` takes a text apart (`decomposes_pieces`), and nothing else does (`eq_pieces`).
* `Covers`: a span lies between characters of the text and has a line between its ends. The spans of a
  text cover its pieces, one by one (`covers_spans`).
* `text_agrees_with_lines`: all together, and what follows for blocks and splitters.
-/

namespace Runbook

namespace Line

/-! ## Breaks -/

/-- The characters that end a physical line, one by one. -/
def breaks : List Char :=
  ['\n', '\r', '\x0b', '\x0c', '\x1c', '\x1d', '\x1e', '\u0085', '\u2028', '\u2029']

theorem isBreak_iff {c : Char} : isBreak c = true ↔ c ∈ breaks := by
  have hchar : ∀ d : Char, c = d ↔ c.toNat = d.toNat := fun d => Char.toNat_inj.symm
  simp only [breaks, List.mem_cons, List.not_mem_nil, or_false, hchar, isBreak, Bool.or_eq_true,
    Bool.and_eq_true, decide_eq_true_eq, beq_iff_eq, Char.reduceToNat]
  omega

theorem isBreak_eq_false_iff {c : Char} : isBreak c = false ↔ c ∉ breaks := by
  rw [← isBreak_iff, Bool.not_eq_true]

theorem hasBreak_eq_false_iff {text : String} :
    hasBreak text = false ↔ ∀ c ∈ text.toList, c ∉ breaks := by
  simp only [hasBreak, List.any_eq_false, isBreak_iff]

/-! ## Pieces -/

/-- A line with the break behind it. -/
structure Piece where
  line : List Char
  ending : List Char

/-- The text is taken apart into these pieces. -/
inductive Decomposes : List Char → List Piece → Prop where
  | nil : Decomposes [] []
  /-- The last line may lack its break, unless it is empty. -/
  | last {line : List Char} (hline : ∀ c ∈ line, c ∉ breaks) (hne : line ≠ []) :
    Decomposes line [⟨line, []⟩]
  /-- A break of one character is no carriage return in front of a line feed. -/
  | one {line : List Char} {c : Char} {rest : List Char} {pieces : List Piece}
    (hline : ∀ c ∈ line, c ∉ breaks) (hbreak : c ∈ breaks)
    (halone : c = '\r' → rest.head? ≠ some '\n') (hrest : Decomposes rest pieces) :
    Decomposes (line ++ c :: rest) (⟨line, [c]⟩ :: pieces)
  /-- A carriage return and a line feed are one break. -/
  | two {line : List Char} {rest : List Char} {pieces : List Piece}
    (hline : ∀ c ∈ line, c ∉ breaks) (hrest : Decomposes rest pieces) :
    Decomposes (line ++ '\r' :: '\n' :: rest) (⟨line, ['\r', '\n']⟩ :: pieces)

/-- The pieces of a text that begins one character earlier. -/
def push (c : Char) : List Piece → List Piece
  | [] => [⟨[c], []⟩]
  | piece :: pieces => { piece with line := c :: piece.line } :: pieces

/-- The pieces of a text. -/
def pieces : List Char → List Piece
  | [] => []
  | '\r' :: '\n' :: rest => ⟨[], ['\r', '\n']⟩ :: pieces rest
  | c :: rest => if isBreak c then ⟨[], [c]⟩ :: pieces rest else push c (pieces rest)

theorem pieces_cons_of_not_break {c : Char} (h : isBreak c = false) (rest : List Char) :
    pieces (c :: rest) = push c (pieces rest) := by
  rw [pieces, if_neg (by simp [h])]
  rintro tail rfl -
  cases h

theorem pieces_cons_of_break {c : Char} (h : isBreak c = true) {rest : List Char}
    (halone : c = '\r' → rest.head? ≠ some '\n') :
    pieces (c :: rest) = ⟨[], [c]⟩ :: pieces rest := by
  rw [pieces, if_pos h]
  rintro tail rfl rfl
  exact halone rfl rfl

/-- Characters that are no break belong to the first line. -/
theorem pieces_append {line : List Char} (h : ∀ c ∈ line, c ∉ breaks) (rest : List Char) :
    pieces (line ++ rest) = line.foldr push (pieces rest) := by
  induction line with
  | nil => rfl
  | cons c line ih =>
    have hc := isBreak_eq_false_iff.mpr (h c List.mem_cons_self)
    have hline := ih fun d hd => h d (List.mem_cons_of_mem _ hd)
    rw [List.cons_append, pieces_cons_of_not_break hc, hline, List.foldr_cons]

theorem foldr_push_cons (line : List Char) (ending : List Char) (rest : List Piece) :
    line.foldr push (⟨[], ending⟩ :: rest) = ⟨line, ending⟩ :: rest := by
  induction line with
  | nil => rfl
  | cons c line ih => rw [List.foldr_cons, ih, push]

theorem foldr_push_nil {line : List Char} (hne : line ≠ []) :
    line.foldr push [] = [⟨line, []⟩] := by
  induction line with
  | nil => exact absurd rfl hne
  | cons c line ih =>
    by_cases hline : line = []
    · rw [hline]
      rfl
    · rw [List.foldr_cons, ih hline, push]

theorem Decomposes.push {c : Char} (hc : c ∉ breaks) {rest : List Char} {pieces : List Piece}
    (h : Decomposes rest pieces) : Decomposes (c :: rest) (push c pieces) := by
  have hpush : ∀ {line : List Char}, (∀ d ∈ line, d ∉ breaks) → ∀ d ∈ c :: line, d ∉ breaks := by
    intro line hline d hd
    rcases List.mem_cons.mp hd with rfl | hd
    · exact hc
    · exact hline d hd
  cases h with
  | nil => exact .last (hpush (fun d hd => nomatch hd)) (List.cons_ne_nil _ _)
  | last hline _ => exact .last (hpush hline) (List.cons_ne_nil _ _)
  | one hline hbreak halone hrest => exact .one (hpush hline) hbreak halone hrest
  | two hline hrest => exact .two (hpush hline) hrest

theorem decomposes_pieces (text : List Char) : Decomposes text (pieces text) := by
  have hempty : ∀ d ∈ ([] : List Char), d ∉ breaks := fun d hd => nomatch hd
  fun_induction pieces text with
  | case1 => exact .nil
  | case2 rest ih => exact .two hempty ih
  | case3 c rest hnotTwo hbreak ih =>
    refine .one hempty (isBreak_iff.mp hbreak) (fun hc hhead => ?_) ih
    obtain ⟨tail, rfl⟩ := List.head?_eq_some_iff.mp hhead
    exact hnotTwo tail hc rfl
  | case4 c rest _ hbreak ih => exact ih.push (isBreak_eq_false_iff.mp (by simpa using hbreak))

theorem Decomposes.free {text : List Char} {parts : List Piece} (h : Decomposes text parts) :
    ∀ piece ∈ parts, ∀ c ∈ piece.line, c ∉ breaks := by
  induction h with
  | nil => exact fun piece hpiece => nomatch hpiece
  | last hline _ => exact List.forall_mem_singleton.mpr hline
  | one hline _ _ _ ih => exact List.forall_mem_cons.mpr ⟨hline, ih⟩
  | two hline _ ih => exact List.forall_mem_cons.mpr ⟨hline, ih⟩

/-- A text is taken apart in one way. -/
theorem eq_pieces {text : List Char} {parts : List Piece} (h : Decomposes text parts) :
    parts = pieces text := by
  induction h with
  | nil => rfl
  | @last line hline hne =>
    have hpieces := pieces_append hline []
    rw [List.append_nil] at hpieces
    rw [hpieces, pieces, foldr_push_nil hne]
  | one hline hbreak halone _ ih =>
    rw [pieces_append hline, pieces_cons_of_break (isBreak_iff.mpr hbreak) halone, foldr_push_cons, ih]
  | two hline _ ih => rw [pieces_append hline, pieces, foldr_push_cons, ih]

/-! ## Spans -/

/-- The span lies between characters of the text, and between its ends the line stands. -/
def Covers (text : List Char) (span : Span) (line : List Char) : Prop :=
  ∃ before after, text = before ++ line ++ after ∧
    span = ⟨String.utf8Len before, String.utf8Len before + String.utf8Len line⟩

theorem covers_spansFrom {text : List Char} (before line : List Char) {rest : List Char}
    (h : text = before ++ line ++ rest) {start offset : Nat} (hstart : start = String.utf8Len before)
    (hoffset : offset = start + String.utf8Len line) :
    List.Forall₂ (fun span piece => Covers text span piece.line) (spansFrom start offset rest)
      (line.foldr push (pieces rest)) := by
  fun_induction pieces rest generalizing before line start offset with
  | case1 =>
    by_cases hline : line = []
    · rw [hline, String.utf8Len_nil] at hoffset
      rw [hline, spansFrom, if_neg (by omega)]
      exact .nil
    · have hpos := Nat.pos_of_ne_zero (mt String.utf8Len_eq_zero.mp hline)
      rw [foldr_push_nil hline, spansFrom, if_pos (by omega)]
      exact .cons ⟨before, [], h, by rw [hoffset, hstart]⟩ .nil
  | case2 rest ih =>
    have hnext : offset + 2 = String.utf8Len (before ++ line ++ ['\r', '\n']) := by
      have hsize : String.utf8Len ['\r', '\n'] = 2 := by decide
      rw [String.utf8Len_append, String.utf8Len_append, hsize, hoffset, hstart]
    rw [foldr_push_cons, spansFrom]
    exact .cons ⟨before, _, h, by rw [hoffset, hstart]⟩ (ih _ [] (by simpa using h) hnext rfl)
  | case3 c rest hnotTwo hbreak ih =>
    have hnext : offset + c.utf8Size = String.utf8Len (before ++ line ++ [c]) := by
      rw [String.utf8Len_append, String.utf8Len_append, hoffset, hstart]
      simp
    rw [foldr_push_cons, spansFrom, if_pos hbreak]
    · exact .cons ⟨before, _, h, by rw [hoffset, hstart]⟩ (ih _ [] (by simpa using h) hnext rfl)
    · exact hnotTwo
  | case4 c rest hnotTwo hbreak ih =>
    have hnext : offset + c.utf8Size = start + String.utf8Len (line ++ [c]) := by
      rw [String.utf8Len_append, hoffset]
      simp [Nat.add_assoc]
    rw [spansFrom, if_neg hbreak]
    · have hrest := ih before (line ++ [c]) (by simpa using h) hstart hnext
      rwa [List.foldr_append] at hrest
    · exact hnotTwo

/-- The spans of a text cover its pieces, in order. -/
theorem covers_spans (text : String) :
    List.Forall₂ (fun span piece => Covers text.toList span piece.line) (spans text)
      (pieces text.toList) :=
  covers_spansFrom [] [] rfl rfl rfl

theorem Covers.slice {text : String} {span : Span} {line : List Char}
    (h : Covers text.toList span line) : span.slice text = String.ofList line := by
  obtain ⟨before, after, htext, rfl⟩ := h
  rw [Span.slice, ← text.ofList_toList, htext]
  exact String.extract_of_valid before line after

/-- A span that covers a line can be cut out. -/
theorem Covers.isValid {text : String} {span : Span} {line : List Char}
    (h : Covers text.toList span line) :
    span.start ≤ span.stop ∧ String.Pos.Raw.IsValid text ⟨span.start⟩ ∧
      String.Pos.Raw.IsValid text ⟨span.stop⟩ := by
  obtain ⟨before, after, htext, rfl⟩ := h
  have hvalid : ∀ x y, text.toList = x ++ y → String.Pos.Raw.IsValid text ⟨String.utf8Len x⟩ := by
    intro x y hxy
    rw [String.Pos.Raw.isValid_iff_exists_append]
    refine ⟨String.ofList x, String.ofList y, ?_, (String.rawEndPos_ofList x).symm⟩
    rw [← String.ofList_append, ← hxy, String.ofList_toList]
  refine ⟨Nat.le_add_right _ _, hvalid before (line ++ after) (by simpa using htext), ?_⟩
  rw [← String.utf8Len_append]
  exact hvalid (before ++ line) after htext

end Line

namespace Block

open Line (Decomposes breaks pieces Piece)

/-- The physical lines of a text are the lines of its pieces. -/
theorem physicalLines_text (text : String) :
    (Block.text text).physicalLines = (pieces text.toList).map fun piece => String.ofList piece.line := by
  have hslices : List.Forall₂ (· = ·) ((Line.spans text).map (Line.Span.slice text))
      ((pieces text.toList).map fun piece => String.ofList piece.line) := by
    rw [List.forall₂_map_left_iff, List.forall₂_map_right_iff]
    exact (Line.covers_spans text).imp fun _ _ h => h.slice
  rwa [List.forall₂_eq_eq_eq] at hslices

theorem isValid_of_mem_spans {text : String} {span : Line.Span} (h : span ∈ Line.spans text) :
    span.start ≤ span.stop ∧ String.Pos.Raw.IsValid text ⟨span.start⟩ ∧
      String.Pos.Raw.IsValid text ⟨span.stop⟩ := by
  have hvalid := (Line.covers_spans text).imp fun _ _ h => And.intro h.isValid h
  exact ((List.forall₂_and_left _ _).mp hvalid).1 span h

theorem broken?_eq_none_iff {lines : List String} :
    (Block.lines lines).broken? = none ↔ ∀ line ∈ lines, ∀ c ∈ line.toList, c ∉ breaks := by
  simp only [broken?, List.find?_eq_none, Bool.not_eq_true, Line.hasBreak_eq_false_iff]

/-- No physical line of an accepted block holds a break. -/
theorem not_mem_breaks_of_broken? {block : Block} (h : block.broken? = none) :
    ∀ line ∈ block.physicalLines, ∀ c ∈ line.toList, c ∉ breaks := by
  cases block with
  | text t =>
    rw [physicalLines_text]
    intro line hline
    obtain ⟨piece, hpiece, rfl⟩ := List.mem_map.mp hline
    rw [String.toList_ofList]
    exact (Line.decomposes_pieces t.toList).free piece hpiece
  | lines ls => exact broken?_eq_none_iff.mp h

theorem ofBlock_of_broken? {block : Block} (h : block.broken? = none) :
    Splitter.ofBlock block = .ok (.ofLines block.physicalLines) := by
  rw [Splitter.ofBlock, h]

/-- Lines without breaks, each ended by a line feed. -/
theorem decomposes_join {lines : List String} (h : ∀ line ∈ lines, ∀ c ∈ line.toList, c ∉ breaks) :
    Decomposes (String.join (lines.map (· ++ "\n"))).toList
      (lines.map fun line => ⟨line.toList, ['\n']⟩) := by
  rw [String.toList_join, List.flatMap_map]
  induction lines with
  | nil => exact .nil
  | cons line lines ih =>
    have hrest := ih fun l hl => h l (List.mem_cons_of_mem _ hl)
    have hbreak : '\n' ∈ breaks := by decide
    rw [List.flatMap_cons, String.toList_append, List.append_assoc]
    exact .one (h line List.mem_cons_self) hbreak (fun hc => by cases hc) hrest

/-- **A text and its lines agree.** There is one way to take a text apart at its breaks, and the physical
lines are the lines of these pieces; each of them is cut out of the text between two of its characters.
Given as lines they are accepted, and every pull reads and gives the same as for the text. Lines without
breaks are the physical lines of the text in which a line feed ends each of them. -/
theorem text_agrees_with_lines :
    (∀ text : String,
      let lines := (Block.text text).physicalLines
      (∃! parts, Decomposes text.toList parts) ∧
      (∀ parts, Decomposes text.toList parts →
        lines = parts.map fun piece => String.ofList piece.line) ∧
      (∀ span ∈ Line.spans text, span.start ≤ span.stop ∧
        String.Pos.Raw.IsValid text ⟨span.start⟩ ∧ String.Pos.Raw.IsValid text ⟨span.stop⟩) ∧
      ∃ ofText ofLines, Splitter.ofBlock (.text text) = .ok ofText ∧
        Splitter.ofBlock (.lines lines) = .ok ofLines ∧
        ∀ k, (ofLines.nth k).saw = (ofText.nth k).saw ∧ (ofLines.nth k).item = (ofText.nth k).item) ∧
    ∀ lines : List String, (∀ line ∈ lines, ∀ c ∈ line.toList, c ∉ breaks) →
      (Block.text (String.join (lines.map (· ++ "\n")))).physicalLines = lines := by
  refine ⟨fun text => ?_, fun lines hlines => ?_⟩
  · intro lines
    have htext : (Block.text text).broken? = none := rfl
    have hlines : (Block.lines lines).broken? = none :=
      broken?_eq_none_iff.mpr (not_mem_breaks_of_broken? htext)
    refine ⟨⟨_, Line.decomposes_pieces _, fun parts h => Line.eq_pieces h⟩, fun parts h => ?_,
      fun span hspan => isValid_of_mem_spans hspan, .ofLines lines, .ofLines lines, ?_, ?_, ?_⟩
    · rw [Line.eq_pieces h]
      exact physicalLines_text text
    · exact ofBlock_of_broken? htext
    · exact ofBlock_of_broken? hlines
    · exact fun k => ⟨rfl, rfl⟩
  · rw [physicalLines_text, ← Line.eq_pieces (decomposes_join hlines), List.map_map]
    exact (List.map_congr_left fun line _ => String.ofList_toList).trans (List.map_id _)

end Block

end Runbook
