import Mathlib.Logic.Relation
import Runbook.Proofs.Line.Trimming
import Runbook.Proofs.Run.Attempts

/-!
# Remarks

Blank lines, comments on lines of their own and comments behind lines change nothing of what a block
launches.

* `Remarked` puts one more remark into a block.
* `finish?_remark`: a comment is read without a trace wherever the words so far are complete, and so it
  may be trimmed as well (`split?_trim_remark`).
* `TakesRemarks` is the invariant: all groups have words, and trimming their ends loses none. A block has
  it if only spaces and tabs are blank in it and its plan is complete (`takesRemarks_of_plan`); remarks
  keep it, whatever stands in them (`takesRemarks_of_remarked`).
* `remarks_change_nothing`: any number of remarks.
-/

namespace Runbook

open Line (breaks continues fragment? glue groups hidesContinuation text texts)
open Text (isBlank trim trimEnd trimStart)

/-! ## Blocks with remarks -/

/-- A line of its own that says nothing: it is blank, or a hash is the first that is not. -/
structure IsRemark (line : String) : Prop where
  hash : ∀ c ∈ (trimStart line.toList).head?, c = '#'
  closed : continues line = false
  free : ∀ c ∈ line.toList, c ∉ breaks

/-- One more remark in a block. -/
inductive Remarked : List String → List String → Prop
  /-- On a line of its own, but not behind a line that goes on. -/
  | alone {before : List String} (hbefore : ∀ last ∈ before.getLast?, continues last = false)
    {remark : String} (hremark : IsRemark remark) (after : List String) :
    Remarked (before ++ after) (before ++ remark :: after)
  /-- Behind a line that does not go on. -/
  | behind (before : List String) {line : String} (hline : continues line = false) {gap : Char}
    (hgap : gap = ' ' ∨ gap = '\t') {remark : String} (hremark : continues remark = false)
    (hfree : ∀ c ∈ remark.toList, c ∉ breaks) (after : List String) :
    Remarked (before ++ line :: after)
      (before ++ (line ++ String.ofList (gap :: '#' :: remark.toList)) :: after)

/-! ## Trimming remarks -/

namespace Text

theorem trimStart_append (text more : List Char) :
    trimStart (text ++ more) =
      if trimStart text = [] then trimStart more else trimStart text ++ more := by
  rw [trimStart, List.dropWhile_append]
  simp only [List.isEmpty_iff]
  rfl

/-- A character that is not blank keeps all that stands before it. -/
theorem trimEnd_append_cons (text : List Char) {c : Char} (h : isBlank c = false) (rest : List Char) :
    trimEnd (text ++ c :: rest) = text ++ c :: trimEnd rest := by
  have hreverse : (text ++ c :: rest).reverse = rest.reverse ++ c :: text.reverse := by simp
  rw [trimEnd, hreverse, List.dropWhile_append, List.dropWhile_cons_of_neg (by simp [h]), trimEnd]
  split_ifs with hnil
  · rw [List.isEmpty_iff.mp hnil]
    simp
  · simp

theorem mem_of_mem_trimEnd {text : List Char} {c : Char} (h : c ∈ trimEnd text) : c ∈ text := by
  rw [trimEnd, List.mem_reverse] at h
  exact List.mem_reverse.mp ((List.dropWhile_sublist _).subset h)

end Text

namespace Word

namespace Lexer

theorem finish?_run_hash {lexer : Lexer} (h : lexer.mode = .gap) {rest : List Char}
    (hline : '\n' ∉ rest) : (lexer.run ('#' :: rest)).finish? = lexer.finish? := by
  have hstep : lexer.step '#' = { lexer with mode := .comment } := by
    simp [step, h, isGap]
  rw [run_cons, hstep, run_comment rfl hline, finish?, finish?, h]

/-- Where the words so far are complete, a comment leaves them as they are. -/
theorem finish?_remark {lexer : Lexer} (h : lexer.finish?.isSome) {gap : Char}
    (hgap : gap = ' ' ∨ gap = '\t') {rest : List Char} (hline : '\n' ∉ rest) :
    (lexer.run (gap :: '#' :: rest)).finish? = lexer.finish? := by
  have hcovered : '\n' ∉ gap :: '#' :: rest := by
    rcases hgap with rfl | rfl <;> simpa using hline
  have hisGap : isGap gap = true := by rcases hgap with rfl | rfl <;> rfl
  have hsettled : lexer.Settled → (lexer.run (gap :: '#' :: rest)).finish? = lexer.finish? := by
    intro hsettled
    have hmode : (lexer.step gap).mode = .gap := by
      rw [(step_blank hsettled (by rcases hgap with rfl | rfl <;> rfl)).1, if_pos hisGap]
    have hends : (lexer.run [gap]).finish? = lexer.finish? :=
      finish?_run_gaps hsettled (by simpa using hisGap)
    rw [run_cons, finish?_run_hash hmode hline]
    exact hends
  rcases finish?_isSome_iff.mp h with hmode | hcomment | hplain
  · exact hsettled (.inl hmode)
  · rw [run_comment hcomment hcovered]
  · exact hsettled (.inr hplain)

end Lexer

theorem split?_hash {rest : List Char} (hline : '\n' ∉ rest) : split? ('#' :: rest) = some [] :=
  Lexer.finish?_run_hash rfl hline

theorem split?_remark {text : List Char} (h : (split? text).isSome) {gap : Char}
    (hgap : gap = ' ' ∨ gap = '\t') {rest : List Char} (hline : '\n' ∉ rest) :
    split? (text ++ gap :: '#' :: rest) = split? text := by
  rw [split?, Lexer.run_append]
  exact Lexer.finish?_remark h hgap hline

/-- Behind a text that loses no words at its end, a comment changes no words, trimmed or not. -/
theorem split?_trim_remark {text : List Char} (h : (split? (trimStart text)).isSome) {gap : Char}
    (hgap : gap = ' ' ∨ gap = '\t') {rest : List Char} (hline : '\n' ∉ rest) :
    split? (trimStart (text ++ gap :: '#' :: rest)) = split? (trimStart text) ∧
      split? (trim (text ++ gap :: '#' :: rest)) = split? (trimStart text) := by
  have hblank : isBlank gap = true := by rcases hgap with rfl | rfl <;> rfl
  have hkept : '\n' ∉ trimEnd rest := fun hmem => hline (Text.mem_of_mem_trimEnd hmem)
  have hstart := Text.trimStart_append text (gap :: '#' :: rest)
  by_cases hnil : trimStart text = []
  · -- the comment is all that is left
    have hhash : trimStart (gap :: '#' :: rest) = '#' :: rest := by
      rw [trimStart, List.dropWhile_cons_of_pos hblank, List.dropWhile_cons_of_neg (by decide)]
    have hend : trimEnd ('#' :: rest) = '#' :: trimEnd rest :=
      Text.trimEnd_append_cons [] (by decide) rest
    rw [if_pos hnil, hhash] at hstart
    rw [trim, hstart, hend, split?_hash hline, split?_hash hkept, hnil]
    exact ⟨rfl, rfl⟩
  · have hend := Text.trimEnd_append_cons (trimStart text ++ [gap]) (c := '#') (by decide) rest
    rw [List.append_assoc, List.append_assoc, List.singleton_append, List.singleton_append] at hend
    rw [if_neg hnil] at hstart
    rw [trim, hstart, hend]
    exact ⟨split?_remark h hgap hline, split?_remark h hgap hkept⟩

/-- Spaces and tabs may be trimmed from the end of a text that has words. -/
theorem split?_trim_of_gaps {text : List Char} (h : (split? (trim text)).isSome)
    (hgaps : ∀ c ∈ text, isBlank c = true → c = ' ' ∨ c = '\t') :
    split? (trim text) = split? (trimStart text) := by
  have hparts := Text.trim_append_trailing text
  have htrailing : ∀ c ∈ Text.trailing text, c = ' ' ∨ c = '\t' := by
    intro c hc
    have hmem : c ∈ trimStart text := hparts ▸ List.mem_append_right _ hc
    exact hgaps c ((List.dropWhile_sublist _).subset hmem) (Text.isBlank_of_mem_trailing hc)
  have hline : '\n' ∉ Text.trailing text := by
    intro hmem
    rcases htrailing _ hmem with h | h <;> cases h
  have hisGap : ∀ c ∈ Text.trailing text, isGap c = true := by
    intro c hc
    rcases htrailing c hc with rfl | rfl <;> rfl
  rw [← hparts, split?, split?, Lexer.run_append]
  rcases Lexer.finish?_isSome_iff.mp h with hmode | hcomment | hplain
  · rw [Lexer.finish?_run_gaps (.inl hmode) hisGap]
  · rw [Lexer.run_comment hcomment hline]
  · rw [Lexer.finish?_run_gaps (.inr hplain) hisGap]

end Word

/-! ## Groups with remarks -/

namespace Line

/-- Lines whose last one does not go on are grouped apart from the lines behind them. -/
theorem groups_append {lines : List String} (h : ∀ last ∈ lines.getLast?, continues last = false)
    (rest : List String) : groups (lines ++ rest) = groups lines ++ groups rest := by
  apply List.splitBy_append
  intro last hlast _ _
  exact h last hlast

/-- Lines taken apart in front of those at the end that all go on. -/
theorem exists_tail (lines : List String) :
    ∃ front tail, lines = front ++ tail ∧ (∀ last ∈ front.getLast?, continues last = false) ∧
      ∀ line ∈ tail, continues line = true := by
  induction lines using cut_induction continues with
  | all lines h => exact ⟨[], lines, rfl, fun last hlast => (nomatch hlast), h⟩
  | cut lines line rest h hline ih =>
    obtain ⟨front, tail, rfl, hfront, htail⟩ := ih
    refine ⟨lines ++ line :: front, tail, by simp, fun last hlast => ?_, htail⟩
    rw [List.getLast?_append, List.getLast?_cons] at hlast
    cases hend : front.getLast? with
    | none =>
      rw [hend] at hlast
      obtain rfl : line = last := by simpa using hlast
      exact hline
    | some end? =>
      rw [hend] at hlast
      obtain rfl : end? = last := by simpa using hlast
      exact hfront _ hend

theorem continues_remark (line : String) (gap : Char) {remark : String}
    (h : continues remark = false) :
    continues (line ++ String.ofList (gap :: '#' :: remark.toList)) = false := by
  unfold continues at h ⊢
  rw [String.toList_append, String.toList_ofList, List.getLast?_append, List.getLast?_cons_cons,
    List.getLast?_cons]
  cases hlast : remark.toList.getLast? with
  | none => rfl
  | some last =>
    rw [hlast] at h
    simpa using h

/-- How a remark changes the groups of a block: there is one more, or one has a comment behind it. -/
theorem groups_of_remarked {lines others : List String} (h : Remarked lines others) :
    ∃ before after,
      (∃ remark, IsRemark remark ∧ groups lines = before ++ after ∧
        groups others = before ++ [remark] :: after) ∨
      ∃ group other gap, ∃ rest : List Char, (gap = ' ' ∨ gap = '\t') ∧ '\n' ∉ rest ∧
        groups lines = before ++ group :: after ∧ groups others = before ++ other :: after ∧
        (glue other).toList = (glue group).toList ++ gap :: '#' :: rest := by
  cases h with
  | @alone before hbefore remark hremark after =>
    refine ⟨groups before, groups after, .inl ⟨remark, hremark, groups_append hbefore after, ?_⟩⟩
    rw [groups_append hbefore]
    exact congrArg _ (@groups_closed [] (by simp) remark hremark.closed after)
  | @behind before line hline gap hgap remark hremark hfree after =>
    obtain ⟨front, tail, rfl, hfront, htail⟩ := exists_tail before
    have hother := continues_remark line gap hremark
    refine ⟨groups front, groups after, .inr ⟨tail ++ [line],
      tail ++ [line ++ String.ofList (gap :: '#' :: remark.toList)], gap, remark.toList, hgap,
      fun hmem => hfree _ hmem (by decide), ?_, ?_, ?_⟩⟩
    · rw [List.append_assoc, groups_append hfront, groups_closed htail hline]
    · rw [List.append_assoc, groups_append hfront, groups_closed htail hother]
    · rw [Splitter.glue_closed tail hother, Splitter.glue_closed tail hline, ← String.append_assoc,
        String.toList_append, String.toList_ofList]

end Line

namespace Runner

variable {runner : Runner}

/-! ## Plans by groups -/

/-- What a group launches. -/
def given (runner : Runner) (group : List String) : Option Invocation :=
  (runner.invocationFor (text group)).toOption.join

theorem planItems_blank (items : List (Except Error String)) :
    runner.planItems (.ok "" :: items) = runner.planItems items := rfl

theorem planItems_texts_cons (group : List String) (groups : List (List String)) :
    runner.planItems ((texts (group :: groups)).map .ok) =
      runner.planItems (.ok (text group) :: (texts groups).map .ok) := by
  rw [Line.texts_cons]
  split_ifs with hblank
  · rw [hblank, planItems_blank]
    rfl
  · rfl

/-- Groups have a plan if each of them gives something or is a comment; it launches what they give. -/
theorem planItems_texts_iff {groups : List (List String)} {invocations : List Invocation} :
    (∃ planned, runner.planItems ((texts groups).map .ok) = .ok planned ∧
        planned.map (·.invocation) = invocations) ↔
      (∀ group ∈ groups, ∃ invocation?, runner.invocationFor (text group) = .ok invocation?) ∧
        groups.filterMap runner.given = invocations := by
  induction groups generalizing invocations with
  | nil => exact ⟨fun ⟨_, h, hsame⟩ => ⟨by simp, by cases h; exact hsame⟩, fun h => ⟨[], rfl, h.2⟩⟩
  | cons group groups ih =>
    rw [planItems_texts_cons, planItems, List.forall_mem_cons, List.filterMap_cons, given]
    cases runner.invocationFor (text group) with
    | error error => simp
    | ok invocation? =>
      cases invocation? with
      | none => simpa [Except.toOption] using ih
      | some invocation =>
        simp only [Except.toOption, Option.join_some, Except.ok.injEq, exists_eq', true_and]
        constructor
        · rintro ⟨planned, hplanned, hsame⟩
          cases hrest : runner.planItems ((texts groups).map .ok) with
          | error error =>
            rw [hrest] at hplanned
            cases hplanned
          | ok rest =>
            rw [hrest] at hplanned
            obtain ⟨hgiven, hothers⟩ := ih.mp ⟨rest, hrest, rfl⟩
            rw [← hsame, ← Except.ok.inj hplanned, hothers]
            exact ⟨hgiven, rfl⟩
        · rintro ⟨hgiven, rfl⟩
          obtain ⟨rest, hrest, hsame⟩ := ih.mpr ⟨hgiven, rfl⟩
          refine ⟨⟨text group, invocation⟩ :: rest, ?_, ?_⟩
          · rw [hrest]
            rfl
          · rw [List.map_cons, hsame]

theorem not_mem_of_planItems {items : List (Except Error String)} {planned : List Planned}
    (h : runner.planItems items = .ok planned) (error : Error) : .error error ∉ items := by
  induction items generalizing planned with
  | nil => exact List.not_mem_nil
  | cons item items ih =>
    cases item with
    | error error => cases h
    | ok line =>
      rw [planItems] at h
      have hrest : ∃ rest, runner.planItems items = .ok rest := by
        cases hline : runner.invocationFor line with
        | error error =>
          rw [hline] at h
          cases h
        | ok invocation? =>
          rw [hline] at h
          cases hitems : runner.planItems items with
          | ok rest => exact ⟨rest, rfl⟩
          | error error => cases invocation? <;> rw [hitems] at h <;> cases h
      obtain ⟨rest, hrest⟩ := hrest
      intro hmem
      rcases List.mem_cons.mp hmem with heq | hmem
      · cases heq
      · exact ih hrest hmem

theorem expected_of_sound {lines : List String} (h : ∀ line ∈ lines, hidesContinuation line = false) :
    Splitter.expected lines = (texts (groups lines)).map .ok := by
  have hnone : lines.find? hidesContinuation = none := by
    rw [List.find?_eq_none]
    intro line hline
    rw [h line hline]
    exact Bool.false_ne_true
  rw [Splitter.expected, Line.readable_of_sound h, hnone]
  exact List.append_nil _

/-! ## The invariant -/

/-- All groups have words, and a comment behind them would find these words complete. -/
structure TakesRemarks (runner : Runner) (lines : List String) : Prop where
  free : ∀ line ∈ lines, ∀ c ∈ line.toList, c ∉ breaks
  sound : ∀ line ∈ lines, hidesContinuation line = false
  given : ∀ group ∈ groups lines, ∃ invocation?, runner.invocationFor (text group) = .ok invocation?
  steady : ∀ group ∈ groups lines,
    Word.split? (trim (glue group).toList) = Word.split? (trimStart (glue group).toList)

theorem isSome_of_invocationFor {line : String} {invocation? : Option Invocation}
    (h : runner.invocationFor line = .ok invocation?) : (Word.split? line.toList).isSome := by
  rw [← Word.exists_ofLine_iff]
  rw [invocationFor] at h
  cases hwords : Word.ofLine line with
  | ok words => exact ⟨words, rfl⟩
  | error fault =>
    rw [hwords] at h
    cases h

/-- Lines with the same words launch the same. -/
theorem invocationFor_congr {line other : String} {invocation? : Option Invocation}
    (h : runner.invocationFor line = .ok invocation?)
    (hwords : Word.split? other.toList = Word.split? line.toList) :
    runner.invocationFor other = .ok invocation? := by
  rw [invocationFor, Word.ofLine_eq_iff.mpr hwords]
  rw [invocationFor] at h
  split at h
  · cases h
  · exact h
  · split_ifs at h ⊢
    · split at h
      · cases h
      · exact h
    · exact h

theorem text_toList (group : List String) : (text group).toList = trim (glue group).toList := by
  rw [text, String.toList_ofList]

theorem misuse?_eq_none_of_plan {block : Block} {planned : List Planned} (h : runner.plan block = .ok planned) :
    runner.misuse? block = none := by
  cases hmisuse : runner.misuse? block with
  | none => rfl
  | some misuse =>
    rw [plan_of_misuse hmisuse] at h
    cases h

theorem takesRemarks_of_plan {lines : List String} {planned : List Planned}
    (hgaps : ∀ line ∈ lines, ∀ c ∈ line.toList, isBlank c = true → c = ' ' ∨ c = '\t')
    (hplan : runner.plan (.lines lines) = .ok planned) :
    runner.TakesRemarks lines ∧ planned.map (·.invocation) = (groups lines).filterMap runner.given := by
  have hmisuse := misuse?_eq_none_of_plan hplan
  obtain ⟨hfree, -⟩ := runner.misuse?_eq_none_iff.mp hmisuse
  rw [plan_of_accepted hmisuse] at hplan
  change runner.planItems (Splitter.expected lines) = _ at hplan
  have hsound : ∀ line ∈ lines, hidesContinuation line = false := by
    intro line hline
    by_contra hhides
    have hsome : (lines.find? hidesContinuation).isSome :=
      List.find?_isSome.mpr ⟨line, hline, by simpa using hhides⟩
    obtain ⟨first, hfirst⟩ := Option.isSome_iff_exists.mp hsome
    refine not_mem_of_planItems hplan (.hiddenContinuation first) ?_
    rw [Splitter.expected, hfirst]
    simp
  rw [expected_of_sound hsound] at hplan
  obtain ⟨hgiven, hsame⟩ := planItems_texts_iff.mp ⟨planned, hplan, rfl⟩
  refine ⟨⟨hfree lines rfl, hsound, hgiven, fun group hgroup => ?_⟩, hsame.symm⟩
  obtain ⟨invocation?, hinvocation⟩ := hgiven group hgroup
  have hwords := isSome_of_invocationFor hinvocation
  rw [text_toList] at hwords
  refine Word.split?_trim_of_gaps hwords fun c hc hblank => ?_
  obtain ⟨line, hline, hmem⟩ := Line.exists_of_mem_glue hc
  exact hgaps line (Line.mem_of_mem_groups hgroup line hline) c hmem hblank

theorem plan_of_takesRemarks {lines : List String} (h : runner.TakesRemarks lines)
    (hvalid : runner.options.misuse? runner.primitive = none) :
    ∃ planned, runner.plan (.lines lines) = .ok planned ∧
      planned.map (·.invocation) = (groups lines).filterMap runner.given := by
  rw [plan_of_accepted ((runner.misuse?_lines h.free).trans hvalid)]
  change ∃ planned, runner.planItems (Splitter.expected lines) = _ ∧ _
  rw [expected_of_sound h.sound]
  exact planItems_texts_iff.mpr ⟨h.given, rfl⟩

/-! ## Remarks keep the invariant -/

/-- A line of the block with the remark was there before, or it does not go on and holds no new break. -/
theorem mem_of_remarked {lines others : List String} (h : Remarked lines others) {line : String}
    (hline : line ∈ others) :
    line ∈ lines ∨ continues line = false ∧
      ∀ c ∈ line.toList, c ∉ breaks ∨ ∃ own ∈ lines, c ∈ own.toList := by
  cases h with
  | @alone before hbefore remark hremark after =>
    rw [List.mem_append, List.mem_cons] at hline
    rcases hline with hline | rfl | hline
    · exact .inl (List.mem_append_left _ hline)
    · exact .inr ⟨hremark.closed, fun c hc => .inl (hremark.free c hc)⟩
    · exact .inl (List.mem_append_right _ hline)
  | @behind before own hown gap hgap remark hremark hfree after =>
    rw [List.mem_append, List.mem_cons] at hline
    rcases hline with hline | rfl | hline
    · exact .inl (by simp [hline])
    · refine .inr ⟨Line.continues_remark own gap hremark, fun c hc => ?_⟩
      rw [String.toList_append, String.toList_ofList, List.mem_append, List.mem_cons,
        List.mem_cons] at hc
      rcases hc with hc | rfl | rfl | hc
      · exact .inr ⟨own, by simp, hc⟩
      · exact .inl (by rcases hgap with rfl | rfl <;> decide)
      · exact .inl (by decide)
      · exact .inl (hfree c hc)
    · exact .inl (by simp [hline])

/-- A remark of its own is a group without words. -/
theorem split?_of_isRemark {remark : String} (h : IsRemark remark) :
    Word.split? (trimStart (glue [remark]).toList) = some [] ∧
      Word.split? (trim (glue [remark]).toList) = some [] := by
  have hglue : glue [remark] = remark := by
    simp [glue, Line.fragment?_eq_none h.closed]
  have hline : '\n' ∉ remark.toList := fun hmem => h.free _ hmem (by decide)
  have hhash := h.hash
  rw [hglue, trim]
  cases hstart : trimStart remark.toList with
  | nil => exact ⟨rfl, rfl⟩
  | cons c rest =>
    obtain rfl : c = '#' := hhash c (by rw [hstart]; rfl)
    have hrest : '\n' ∉ rest := by
      intro hmem
      refine hline ((List.dropWhile_sublist isBlank).subset ?_)
      rw [← trimStart, hstart]
      exact List.mem_cons_of_mem _ hmem
    have hend : trimEnd ('#' :: rest) = '#' :: trimEnd rest :=
      Text.trimEnd_append_cons [] (by decide) rest
    rw [hend]
    exact ⟨Word.split?_hash hrest, Word.split?_hash fun hmem => hrest (Text.mem_of_mem_trimEnd hmem)⟩

/-- A group with a comment behind it has the words of the group. -/
theorem words_of_remarked_group {group other : List String} {gap : Char} {rest : List Char}
    {invocation? : Option Invocation} (hgap : gap = ' ' ∨ gap = '\t') (hline : '\n' ∉ rest)
    (hglue : (glue other).toList = (glue group).toList ++ gap :: '#' :: rest)
    (hgiven : runner.invocationFor (text group) = .ok invocation?)
    (hsteady : Word.split? (trim (glue group).toList) = Word.split? (trimStart (glue group).toList)) :
    runner.invocationFor (text other) = .ok invocation? ∧
      Word.split? (trim (glue other).toList) = Word.split? (trimStart (glue other).toList) := by
  have hwords := isSome_of_invocationFor hgiven
  rw [text_toList, hsteady] at hwords
  obtain ⟨hstart, htrim⟩ := Word.split?_trim_remark hwords hgap hline
  rw [← hglue] at hstart htrim
  refine ⟨invocationFor_congr hgiven ?_, htrim.trans hstart.symm⟩
  rw [text_toList, text_toList, htrim, hsteady]

/-- **One more remark** keeps the invariant, and nothing else is launched. -/
theorem takesRemarks_of_remarked {lines others : List String} (h : Remarked lines others)
    (hlines : runner.TakesRemarks lines) :
    runner.TakesRemarks others ∧
      (groups others).filterMap runner.given = (groups lines).filterMap runner.given := by
  obtain ⟨hfree, hsound, hgiven, hsteady⟩ := hlines
  have hfreeOther : ∀ line ∈ others, ∀ c ∈ line.toList, c ∉ breaks := by
    intro line hline c hc
    rcases mem_of_remarked h hline with hmem | ⟨-, hnew⟩
    · exact hfree line hmem c hc
    · exact (hnew c hc).elim id fun ⟨own, hown, hmem⟩ => hfree own hown c hmem
  have hsoundOther : ∀ line ∈ others, hidesContinuation line = false := by
    intro line hline
    rcases mem_of_remarked h hline with hmem | ⟨hclosed, -⟩
    · exact hsound line hmem
    · exact Line.hidesContinuation_eq_false hclosed
  obtain ⟨before, after, hgroups⟩ := Line.groups_of_remarked h
  rcases hgroups with ⟨remark, hremark, hlines, hothers⟩ |
    ⟨group, other, gap, rest, hgap, hline, hlines, hothers, hglue⟩
  · obtain ⟨hstart, htrim⟩ := split?_of_isRemark hremark
    have hnone : runner.invocationFor (text [remark]) = .ok none := by
      have hempty : runner.invocationFor "" = .ok none := rfl
      rw [← text_toList] at htrim
      exact invocationFor_congr hempty htrim
    rw [hlines, List.forall_mem_append] at hgiven hsteady
    refine ⟨⟨hfreeOther, hsoundOther, ?_, ?_⟩, ?_⟩
    · rw [hothers, List.forall_mem_append, List.forall_mem_cons]
      exact ⟨hgiven.1, ⟨none, hnone⟩, hgiven.2⟩
    · rw [hothers, List.forall_mem_append, List.forall_mem_cons]
      exact ⟨hsteady.1, htrim.trans hstart.symm, hsteady.2⟩
    · have hskip : runner.given [remark] = none := by rw [given, hnone]; rfl
      rw [hothers, hlines, List.filterMap_append, List.filterMap_append, List.filterMap_cons_none hskip]
  · rw [hlines, List.forall_mem_append, List.forall_mem_cons] at hgiven hsteady
    obtain ⟨hgivenBefore, ⟨invocation?, hgroup⟩, hgivenAfter⟩ := hgiven
    obtain ⟨hsteadyBefore, hsteadyGroup, hsteadyAfter⟩ := hsteady
    obtain ⟨hother, hsteadyOther⟩ :=
      words_of_remarked_group hgap hline hglue hgroup hsteadyGroup
    refine ⟨⟨hfreeOther, hsoundOther, ?_, ?_⟩, ?_⟩
    · rw [hothers, List.forall_mem_append, List.forall_mem_cons]
      exact ⟨hgivenBefore, ⟨invocation?, hother⟩, hgivenAfter⟩
    · rw [hothers, List.forall_mem_append, List.forall_mem_cons]
      exact ⟨hsteadyBefore, hsteadyOther, hsteadyAfter⟩
    · have hsame : runner.given other = runner.given group := by rw [given, given, hother, hgroup]
      rw [hothers, hlines, List.filterMap_append, List.filterMap_append, List.filterMap_cons,
        List.filterMap_cons, hsame]

/-- **Remarks change nothing.** Where only spaces and tabs are blank in some lines, and their plan is
complete, any number of remarks may be put into them one after the other: blank lines, comments on lines
of their own, and comments behind lines, with any characters in them. The plan stays complete and has the
same invocations, and a run makes the same launches with the same outcomes, at once or pull by pull. -/
theorem remarks_change_nothing {lines others : List String} {planned : List Planned}
    (hgaps : ∀ line ∈ lines, ∀ c ∈ line.toList, isBlank c = true → c = ' ' ∨ c = '\t')
    (hplan : runner.plan (.lines lines) = .ok planned)
    (hremarks : Relation.ReflTransGen Remarked lines others) :
    ∃ remarked, runner.plan (.lines others) = .ok remarked ∧
      remarked.map (·.invocation) = planned.map (·.invocation) ∧
      ∀ {σ : Type} (launcher : Launcher σ) (state : σ),
        Alike (runner.execute launcher (.lines lines) state)
            (runner.execute launcher (.lines others) state) ∧
          ∀ progress otherProgress, runner.opens (.lines lines) = .ok progress →
            runner.opens (.lines others) = .ok otherProgress →
              (observed (runner.pulls launcher otherProgress state)).filterMap deed? =
                (observed (runner.pulls launcher progress state)).filterMap deed? := by
  obtain ⟨hlines, hsame⟩ := takesRemarks_of_plan hgaps hplan
  have hvalid : runner.options.misuse? runner.primitive = none := by
    rw [← runner.misuse?_lines hlines.free]
    exact misuse?_eq_none_of_plan hplan
  -- from remark to remark
  have hothers : runner.TakesRemarks others ∧
      (groups others).filterMap runner.given = (groups lines).filterMap runner.given := by
    clear hplan hsame
    induction hremarks with
    | refl => exact ⟨hlines, rfl⟩
    | tail _ hremark ih =>
      obtain ⟨hnext, hnextSame⟩ := takesRemarks_of_remarked hremark ih.1
      exact ⟨hnext, hnextSame.trans ih.2⟩
  obtain ⟨remarked, hremarked, hinvocations⟩ := plan_of_takesRemarks hothers.1 hvalid
  have hagree : remarked.map (·.invocation) = planned.map (·.invocation) := by
    rw [hinvocations, hothers.2, hsame]
  exact ⟨remarked, hremarked, hagree, fun launcher state =>
    runs_alike hplan hremarked hagree launcher state⟩

/-- A comment behind the last line of a group, in which quotes and another blank character stand, and a
comment on a line of its own. -/
theorem remarks_change_nothing_quotes :
    let runner : Runner := { primitive := .call }
    let lines := ["a \\", "b 'c#d'", "e"]
    let others := ["a \\", "b 'c#d'\t# 'f\u00A0", "\u00A0# g", "e"]
    runner.plan (.lines lines) = .ok [⟨"a b 'c#d'", .argv ["a", "b", "c#d"]⟩, ⟨"e", .argv ["e"]⟩] ∧
      ∃ remarked, runner.plan (.lines others) = .ok remarked ∧
        remarked.map (·.invocation) = [.argv ["a", "b", "c#d"], .argv ["e"]] := by
  intro runner lines others
  have hplan : runner.plan (.lines lines) =
      .ok [⟨"a b 'c#d'", .argv ["a", "b", "c#d"]⟩, ⟨"e", .argv ["e"]⟩] := by
    rw [plan_of_accepted (by rfl)]
    rfl
  have hgaps : ∀ line ∈ lines, ∀ c ∈ line.toList, isBlank c = true → c = ' ' ∨ c = '\t' := by
    have hall : (lines.all fun line => line.toList.all fun c => !isBlank c || c == ' ') = true := by rfl
    intro line hline c hc hblank
    have hspace := List.all_eq_true.mp (List.all_eq_true.mp hall line hline) c hc
    rw [hblank] at hspace
    exact .inl (beq_iff_eq.mp hspace)
  have hgap : '\t' = ' ' ∨ '\t' = '\t' := .inr rfl
  have hcomment : continues " 'f\u00A0" = false := by rfl
  have hbehind : Remarked lines ["a \\", "b 'c#d'\t# 'f\u00A0", "e"] :=
    .behind ["a \\"] (by rfl) hgap hcomment (Line.hasBreak_eq_false_iff.mp (by rfl)) ["e"]
  have hbefore : ∀ last ∈ ["a \\", "b 'c#d'\t# 'f\u00A0"].getLast?, continues last = false := by
    decide +kernel
  have hremark : IsRemark "\u00A0# g" := by
    refine ⟨fun c hc => ?_, by rfl, Line.hasBreak_eq_false_iff.mp (by rfl)⟩
    have hhead : (trimStart "\u00A0# g".toList).head? = some '#' := by rfl
    exact Option.some.inj (hc.symm.trans hhead)
  have halone : Remarked ["a \\", "b 'c#d'\t# 'f\u00A0", "e"] others := .alone hbefore hremark ["e"]
  obtain ⟨remarked, hremarked, hsame, -⟩ :=
    remarks_change_nothing hgaps hplan (.tail (.single hbehind) halone)
  exact ⟨hplan, remarked, hremarked, hsame⟩

end Runner

end Runbook
