import Mathlib.Logic.Function.Iterate
import Runbook.Proofs.Line.Groups

/-!
# Pulls of a splitter

What each pull of a splitter gives and which physical lines it reads, against the groups of the block.

* `pull_closed`, `pull_blank`, `pull_open` and `pull_hidden` say what one pull does in front of a group
  with a text, of a blank one, of an open one at the end, and of a line that hides its continuation.
* `nth` is the pull after a number of others and `seen` what the first pulls read together.
* `pulls_follow_groups`: the pulls give the texts of the readable groups in order, then the error if
  there is one, then nothing; the pull that gives the text of a group reads up to the end of that group.
-/

namespace Runbook

open Line (continues hidesContinuation joins groups glue text texts readable readLines)

namespace Splitter

/-! ## One pull -/

/-- The pull that read more lines before. -/
def Pull.sawBefore (lines : List String) (pull : Pull) : Pull := { pull with saw := lines ++ pull.saw }

/-- Lines that join are put into the buffer. -/
theorem advance_joins {lines : List String} (h : ∀ line ∈ lines, joins line = true) (buffer : String)
    (rest : List String) :
    advance buffer (lines ++ rest) = (advance (buffer ++ glue lines) rest).sawBefore lines := by
  induction lines generalizing buffer with
  | nil => simp [glue, Pull.sawBefore]
  | cons line lines ih =>
    obtain ⟨fragment, hfragment, hkeeps⟩ := Line.joins_iff.mp (h line List.mem_cons_self)
    have hrest := ih (fun l hl => h l (List.mem_cons_of_mem _ hl)) (buffer ++ fragment)
    rw [List.cons_append, advance, hfragment]
    dsimp only
    rw [if_pos hkeeps, hrest]
    simp [glue, hfragment, Pull.sawFirst, Pull.sawBefore, String.append_assoc]

/-- The line that closes a group is glued as it stands. -/
theorem glue_closed (lines : List String) {last : String} (hlast : continues last = false) :
    glue (lines ++ [last]) = glue lines ++ last := by
  simp [glue, Line.fragment?_eq_none hlast]

/-- A closed group with a text is a pull of its own. -/
theorem pull_closed {lines : List String} (h : ∀ line ∈ lines, joins line = true) {last : String}
    (hlast : continues last = false) (htext : text (lines ++ [last]) ≠ "") (rest : List String) :
    (ofLines (lines ++ last :: rest)).pull =
      ⟨lines ++ [last], some (.ok (text (lines ++ [last]))), ofLines rest⟩ := by
  have hlogical := Line.logical?_glue (lines ++ [last])
  rw [if_neg htext, glue_closed lines hlast] at hlogical
  change advance "" (lines ++ last :: rest) = _
  rw [advance_joins h, String.empty_append, advance, Line.fragment?_eq_none hlast]
  dsimp only
  rw [hlogical]
  rfl

/-- A blank group is passed over in the pull of what comes behind it. -/
theorem pull_blank {lines : List String} (h : ∀ line ∈ lines, joins line = true) {last : String}
    (hlast : continues last = false) (htext : text (lines ++ [last]) = "") (rest : List String) :
    (ofLines (lines ++ last :: rest)).pull = (ofLines rest).pull.sawBefore (lines ++ [last]) := by
  have hlogical := Line.logical?_glue (lines ++ [last])
  rw [if_pos htext, glue_closed lines hlast] at hlogical
  change advance "" (lines ++ last :: rest) = (advance "" rest).sawBefore _
  rw [advance_joins h, String.empty_append, advance, Line.fragment?_eq_none hlast]
  dsimp only
  rw [hlogical]
  simp [Pull.sawFirst, Pull.sawBefore]

/-- An open group at the end is a pull of its own, even if it is blank. -/
theorem pull_open {lines : List String} (h : ∀ line ∈ lines, joins line = true) :
    (ofLines lines).pull =
      ⟨lines, if text lines = "" then none else some (.ok (text lines)), ⟨[], "", true⟩⟩ := by
  have hall := advance_joins h "" []
  rw [List.append_nil, String.empty_append] at hall
  change advance "" lines = _
  rw [hall, advance, Line.logical?_glue]
  split_ifs <;> simp [Pull.sawBefore]

/-- A line that hides its continuation ends the pull and the splitter; what was kept is lost. -/
theorem pull_hidden {lines : List String} (h : ∀ line ∈ lines, joins line = true) {line : String}
    (hline : hidesContinuation line = true) (rest : List String) :
    (ofLines (lines ++ line :: rest)).pull =
      ⟨lines ++ [line], some (.error (.hiddenContinuation line)), ⟨rest, glue lines, true⟩⟩ := by
  have hadvance : advance (glue lines) (line :: rest) =
      ⟨[line], some (.error (.hiddenContinuation line)), ⟨rest, glue lines, true⟩⟩ := by
    rw [hidesContinuation] at hline
    rw [advance]
    cases hfragment : Line.fragment? line with
    | none =>
      rw [hfragment] at hline
      cases hline
    | some fragment =>
      rw [hfragment] at hline
      have hnot : ¬ Line.keepsHashes fragment = true := by simpa using hline
      exact if_neg hnot
  change advance "" (lines ++ line :: rest) = _
  rw [advance_joins h, String.empty_append, hadvance]
  rfl

/-- Nothing is pulled and nothing is read once it is over. -/
theorem pull_done {splitter : Splitter} (h : splitter.done = true) :
    splitter.pull = ⟨[], none, splitter⟩ := by
  rw [pull, if_pos h]

/-! ## Pulls one after the other -/

/-- The pull after `k` others. -/
def nth (splitter : Splitter) (k : Nat) : Pull := ((fun s : Splitter => s.pull.next)^[k] splitter).pull

/-- What the first `k` pulls read, in order. -/
def seen (splitter : Splitter) (k : Nat) : List String :=
  (List.range k).flatMap fun i => (splitter.nth i).saw

theorem nth_zero (splitter : Splitter) : splitter.nth 0 = splitter.pull := rfl

theorem nth_succ (splitter : Splitter) (k : Nat) :
    splitter.nth (k + 1) = splitter.pull.next.nth k := by
  rw [nth, Function.iterate_succ_apply]
  rfl

/-- Behind the pull after `m` others the pulls are counted on. -/
theorem nth_add (splitter : Splitter) (m k : Nat) :
    (splitter.nth m).next.nth k = splitter.nth (m + k + 1) := by
  induction m generalizing splitter with
  | zero => rw [nth_zero, ← nth_succ, Nat.zero_add]
  | succ m ih => rw [nth_succ, ih, ← nth_succ, Nat.add_right_comm m 1 k]

theorem seen_succ (splitter : Splitter) (k : Nat) :
    splitter.seen (k + 1) = splitter.pull.saw ++ splitter.pull.next.seen k := by
  unfold seen
  rw [List.range_succ_eq_map, List.flatMap_cons, List.flatMap_map, nth_zero]
  simp only [nth_succ]

theorem seen_concat (splitter : Splitter) (k : Nat) :
    splitter.seen (k + 1) = splitter.seen k ++ (splitter.nth k).saw := by
  simp [seen, List.range_succ]

theorem nth_done {splitter : Splitter} (h : splitter.done = true) (k : Nat) :
    splitter.nth k = ⟨[], none, splitter⟩ := by
  induction k with
  | zero => exact pull_done h
  | succ k ih => rw [nth_succ, pull_done h, ih]

theorem seen_done {splitter : Splitter} (h : splitter.done = true) (k : Nat) :
    splitter.seen k = [] := by
  simp [seen, nth_done h]

/-- Whatever comes in front of the first pull, the later ones are the same. -/
theorem nth_of_sawBefore {a b : Splitter} {lines : List String}
    (h : a.pull = b.pull.sawBefore lines) (k : Nat) : (a.nth k).item = (b.nth k).item := by
  cases k with
  | zero => rw [nth_zero, nth_zero, h, Pull.sawBefore]
  | succ k => rw [nth_succ, nth_succ, h, Pull.sawBefore]

theorem seen_of_sawBefore {a b : Splitter} {lines : List String}
    (h : a.pull = b.pull.sawBefore lines) (k : Nat) : a.seen (k + 1) = lines ++ b.seen (k + 1) := by
  rw [seen_succ, seen_succ, h, Pull.sawBefore, List.append_assoc]

/-! ## Pulls against groups -/

/-- What all pulls are to give: the texts of the readable groups, then the error if there is one. -/
def expected (lines : List String) : List (Except Error String) :=
  (texts (readable lines)).map .ok ++
    (lines.find? hidesContinuation).toList.map fun line => .error (.hiddenContinuation line)

/-- The pulls of these lines follow their groups. -/
structure FollowsGroups (lines : List String) : Prop where
  /-- The pulls give what is expected, in order, and then nothing. -/
  item : ∀ k, ((ofLines lines).nth k).item = (expected lines)[k]?
  /-- The pull that gives the text of a group reads to the end of that group. -/
  upTo : ∀ before group after, readable lines = before ++ group :: after → text group ≠ "" →
    (ofLines lines).seen ((texts before).length + 1) = before.flatten ++ group
  /-- The pull behind these reads all that is to be read. -/
  all : ∀ k, (texts (readable lines)).length < k → (ofLines lines).seen k = readLines lines

theorem find?_eq_none_of_joins {lines : List String} (h : ∀ line ∈ lines, joins line = true) :
    lines.find? hidesContinuation = none := by
  rw [List.find?_eq_none]
  intro line hline
  rw [Line.sound_of_joins (h line hline)]
  exact Bool.false_ne_true

theorem expected_closed {lines : List String} (h : ∀ line ∈ lines, joins line = true) {last : String}
    (hlast : continues last = false) (rest : List String) :
    expected (lines ++ last :: rest) =
      (texts [lines ++ [last]]).map .ok ++ expected rest := by
  have hnone := find?_eq_none_of_joins h
  unfold expected
  rw [Line.readable_closed h hlast, List.find?_append, hnone, Option.none_or, List.find?_cons,
    Line.hidesContinuation_eq_false hlast, Line.texts_cons, Line.texts_cons]
  simp [texts]

theorem expected_hidden {lines : List String} (h : ∀ line ∈ lines, joins line = true) {line : String}
    (hline : hidesContinuation line = true) (rest : List String) :
    expected (lines ++ line :: rest) = [.error (.hiddenContinuation line)] := by
  have hnone := find?_eq_none_of_joins h
  rw [expected, Line.readable_hidden h hline, List.find?_append, hnone, Option.none_or,
    List.find?_cons, hline]
  rfl

theorem readLines_closed {lines : List String} (h : ∀ line ∈ lines, joins line = true) {last : String}
    (hlast : continues last = false) (rest : List String) :
    readLines (lines ++ last :: rest) = (lines ++ [last]) ++ readLines rest := by
  rw [← List.singleton_append, ← List.append_assoc]
  apply Line.readLines_append
  intro line hline
  rcases List.mem_append.mp hline with hline | hline
  · exact Line.sound_of_joins (h line hline)
  · rw [List.mem_singleton.mp hline]
    exact Line.hidesContinuation_eq_false hlast

theorem texts_readable_open {lines : List String} (h : ∀ line ∈ lines, joins line = true) :
    texts (readable lines) = if text lines = "" then [] else [text lines] := by
  rw [Line.readable_open h]
  by_cases hne : lines = []
  · rw [hne, if_pos rfl, if_pos (by simp [text, glue, Text.trim, Text.trimStart, Text.trimEnd])]
    rfl
  · rw [if_neg hne, Line.texts_cons]
    exact List.append_nil _

theorem followsGroups_open {lines : List String} (h : ∀ line ∈ lines, joins line = true) :
    FollowsGroups lines := by
  have hpull := pull_open h
  have hsound : ∀ line ∈ lines, hidesContinuation line = false :=
    fun line hline => Line.sound_of_joins (h line hline)
  have hseen : ∀ k, (ofLines lines).seen (k + 1) = lines := fun k => by
    rw [seen_succ, hpull, seen_done rfl, List.append_nil]
  refine ⟨fun k => ?_, fun before group after hsplit _ => ?_, fun k hk => ?_⟩
  · rw [expected, texts_readable_open h, find?_eq_none_of_joins h]
    cases k with
    | zero => rw [nth_zero, hpull]; split_ifs <;> rfl
    | succ k => rw [nth_succ, hpull, nth_done rfl]; split_ifs <;> rfl
  · rw [Line.readable_open h] at hsplit
    split_ifs at hsplit with hne
    · simp at hsplit
    · obtain ⟨rfl, hgroup⟩ := List.append_eq_singleton_iff.mp hsplit.symm |>.resolve_right (by simp)
      obtain ⟨rfl, -⟩ := List.cons.inj hgroup
      rw [hseen]
      rfl
  · obtain ⟨k, rfl⟩ := Nat.exists_eq_succ_of_ne_zero (Nat.ne_zero_of_lt hk)
    rw [hseen, Line.readLines_of_sound hsound]

theorem followsGroups_hidden {lines : List String} (h : ∀ line ∈ lines, joins line = true)
    {line : String} (hline : hidesContinuation line = true) (rest : List String) :
    FollowsGroups (lines ++ line :: rest) := by
  have hpull := pull_hidden h hline rest
  have hreadable := Line.readable_hidden h hline rest
  refine ⟨fun k => ?_, fun before group after hsplit _ => ?_, fun k hk => ?_⟩
  · rw [expected_hidden h hline]
    cases k with
    | zero => rw [nth_zero, hpull]; rfl
    | succ k => rw [nth_succ, hpull, nth_done rfl]; rfl
  · rw [hreadable] at hsplit
    simp at hsplit
  · obtain ⟨k, rfl⟩ := Nat.exists_eq_succ_of_ne_zero (Nat.ne_zero_of_lt hk)
    rw [seen_succ, hpull, seen_done rfl, List.append_nil,
      Line.readLines_append fun l hl => Line.sound_of_joins (h l hl), Line.readLines_hidden hline]

theorem followsGroups_blank {lines : List String} (h : ∀ line ∈ lines, joins line = true)
    {last : String} (hlast : continues last = false) (htext : text (lines ++ [last]) = "")
    {rest : List String} (hrest : FollowsGroups rest) : FollowsGroups (lines ++ last :: rest) := by
  have hpull := pull_blank h hlast htext rest
  have hreadable := Line.readable_closed h hlast rest
  have htexts : ∀ groups, texts ((lines ++ [last]) :: groups) = texts groups := fun groups => by
    rw [Line.texts_cons, if_pos htext, List.nil_append]
  refine ⟨fun k => ?_, fun before group after hsplit hgroup => ?_, fun k hk => ?_⟩
  · rw [nth_of_sawBefore hpull, hrest.item, expected_closed h hlast, htexts []]
    rfl
  · rw [hreadable] at hsplit
    cases before with
    | nil =>
      obtain ⟨hfirst, -⟩ := List.cons.inj hsplit
      rw [← hfirst] at hgroup
      exact absurd htext hgroup
    | cons first before =>
      obtain ⟨rfl, hothers⟩ := List.cons.inj hsplit
      rw [htexts, seen_of_sawBefore hpull, hrest.upTo before group after hothers hgroup,
        List.flatten_cons]
      exact (List.append_assoc _ _ _).symm
  · rw [hreadable, htexts] at hk
    obtain ⟨k, rfl⟩ := Nat.exists_eq_succ_of_ne_zero (Nat.ne_zero_of_lt hk)
    rw [seen_of_sawBefore hpull, hrest.all _ hk, readLines_closed h hlast]

theorem followsGroups_closed {lines : List String} (h : ∀ line ∈ lines, joins line = true)
    {last : String} (hlast : continues last = false) (htext : text (lines ++ [last]) ≠ "")
    {rest : List String} (hrest : FollowsGroups rest) : FollowsGroups (lines ++ last :: rest) := by
  have hpull := pull_closed h hlast htext rest
  have hreadable := Line.readable_closed h hlast rest
  have htexts : ∀ groups, texts ((lines ++ [last]) :: groups) = text (lines ++ [last]) :: texts groups :=
    fun groups => by rw [Line.texts_cons, if_neg htext, List.singleton_append]
  refine ⟨fun k => ?_, fun before group after hsplit hgroup => ?_, fun k hk => ?_⟩
  · rw [expected_closed h hlast, htexts []]
    cases k with
    | zero => rw [nth_zero, hpull]; rfl
    | succ k => rw [nth_succ, hpull, hrest.item]; rfl
  · rw [hreadable] at hsplit
    rw [seen_succ, hpull]
    cases before with
    | nil =>
      obtain ⟨rfl, -⟩ := List.cons.inj hsplit
      exact List.append_nil _
    | cons first before =>
      obtain ⟨rfl, hothers⟩ := List.cons.inj hsplit
      rw [htexts, List.length_cons, hrest.upTo before group after hothers hgroup, List.flatten_cons]
      exact (List.append_assoc _ _ _).symm
  · rw [hreadable, htexts, List.length_cons] at hk
    obtain ⟨k, rfl⟩ := Nat.exists_eq_succ_of_ne_zero (Nat.ne_zero_of_lt hk)
    rw [seen_succ, hpull, hrest.all k (Nat.lt_of_succ_lt_succ hk), readLines_closed h hlast]

theorem followsGroups (lines : List String) : FollowsGroups lines := by
  induction lines using Line.cut_induction joins with
  | all lines h => exact followsGroups_open h
  | cut lines line rest h hline hrest =>
    rcases Line.joins_eq_false_iff.mp hline with hlast | hhides
    · by_cases htext : text (lines ++ [line]) = ""
      · exact followsGroups_blank h hlast htext hrest
      · exact followsGroups_closed h hlast htext hrest
    · exact followsGroups_hidden h hhides rest

/-! ## All pulls -/

/-- Induction from the last pull back to the first. -/
theorem pull_induction {P : Splitter → Prop}
    (step : ∀ splitter, (∀ item, splitter.pull.item = some item → P splitter.pull.next) → P splitter)
    (splitter : Splitter) : P splitter := by
  induction hn : splitter.remaining using Nat.strong_induction_on generalizing splitter with
  | _ n ih =>
    apply step
    intro item hitem
    exact ih _ (hn ▸ pull_remaining_lt hitem) _ rfl

/-- The pull that gives nothing is the last one. -/
theorem done_of_none {splitter : Splitter} (h : splitter.pull.item = none) :
    splitter.pull.next.done = true := by
  have hadvance : ∀ buffer lines, (advance buffer lines).item = none →
      (advance buffer lines).next.done = true := by
    intro buffer lines
    fun_induction advance buffer lines with
    | case1 => exact fun _ => rfl
    | case2 buffer line lines fragment _ _ ih => exact ih
    | case3 => exact fun _ => rfl
    | case4 => exact fun hitem => nomatch hitem
    | case5 buffer line lines _ _ ih => exact ih
  unfold pull at h ⊢
  split_ifs at h ⊢ with hdone
  · exact hdone
  · exact hadvance _ _ h

/-- The only error is that of a line that hides its continuation. -/
theorem exists_line_of_pull {splitter : Splitter} {error : Error}
    (h : splitter.pull.item = some (.error error)) : ∃ line, error = .hiddenContinuation line := by
  have hadvance : ∀ buffer lines, (advance buffer lines).item = some (.error error) →
      ∃ line, error = .hiddenContinuation line := by
    intro buffer lines
    fun_induction advance buffer lines with
    | case1 buffer => cases Line.logical? buffer <;> exact fun hitem => nomatch hitem
    | case2 buffer line lines fragment _ _ ih => exact ih
    | case3 buffer line lines =>
      exact fun hitem => ⟨line, (Except.error.inj (Option.some.inj hitem)).symm⟩
    | case4 => exact fun hitem => nomatch hitem
    | case5 buffer line lines _ _ ih => exact ih
  unfold pull at h
  split_ifs at h
  exact hadvance _ _ h

theorem items_of_none {splitter : Splitter} (h : splitter.pull.item = none) :
    splitter.items = [] := by
  rw [items, pulls]
  split
  · rename_i item hitem
    rw [h] at hitem
    cases hitem
  · simp [h]

theorem items_of_some {splitter : Splitter} {item : Except Error String}
    (h : splitter.pull.item = some item) : splitter.items = item :: splitter.pull.next.items := by
  rw [items, pulls]
  split
  · rw [List.filterMap_cons_some h, items]
  · rename_i hitem
    rw [h] at hitem
    cases hitem

/-- The items are what the pulls give one after the other. -/
theorem items_getElem? (splitter : Splitter) (k : Nat) :
    splitter.items[k]? = (splitter.nth k).item := by
  induction k generalizing splitter with
  | zero =>
    rw [nth_zero]
    cases h : splitter.pull.item with
    | none => rw [items_of_none h]; rfl
    | some item => rw [items_of_some h]; rfl
  | succ k ih =>
    rw [nth_succ]
    cases h : splitter.pull.item with
    | none => rw [items_of_none h, nth_done (done_of_none h)]; rfl
    | some item => rw [items_of_some h, List.getElem?_cons_succ, ih]

theorem items_ofLines (lines : List String) : (ofLines lines).items = expected lines := by
  apply List.ext_getElem?
  intro k
  rw [items_getElem?, (followsGroups lines).item]

theorem expected_lines (lines : List String) :
    (expected lines).filterMap Except.toOption = texts (readable lines) := by
  have herror : ((lines.find? hidesContinuation).toList.map fun line =>
      (.error (.hiddenContinuation line) : Except Error String)).filterMap Except.toOption = [] := by
    cases lines.find? hidesContinuation <;> rfl
  rw [expected, List.filterMap_append, herror, List.append_nil, List.filterMap_map]
  exact List.filterMap_some

/-- The only error is that of a physical line, as it stands. -/
theorem mem_of_mem_expected {lines : List String} {error : Error} (h : .error error ∈ expected lines) :
    ∃ line ∈ lines, error = .hiddenContinuation line := by
  rw [expected, List.mem_append, List.mem_map, List.mem_map] at h
  rcases h with ⟨text, -, htext⟩ | ⟨line, hline, heq⟩
  · cases htext
  · exact ⟨line, List.mem_of_find?_eq_some (Option.mem_toList.mp hline), (Except.error.inj heq).symm⟩

theorem exists_line_of_mem_expected {lines : List String} {error : Error}
    (h : .error error ∈ expected lines) : ∃ line, error = .hiddenContinuation line := by
  obtain ⟨line, -, heq⟩ := mem_of_mem_expected h
  exact ⟨line, heq⟩

theorem expected_length_le (lines : List String) :
    (expected lines).length ≤ (texts (readable lines)).length + 1 := by
  unfold expected
  cases lines.find? hidesContinuation <;> simp

theorem eq_ofLines_of_ofBlock {block : Block} {splitter : Splitter}
    (h : ofBlock block = .ok splitter) : splitter = ofLines block.physicalLines := by
  unfold ofBlock at h
  split at h
  · cases h
  · exact (Except.ok.inj h).symm

/-- **Pulls follow the groups of a block.** They give the texts of the readable groups in order, then
the error for the first line that hides its continuation, if there is one. The pull that gives the text
of a group has read, with the pulls before it, exactly the lines up to the end of that group. After the
error or the end nothing is given and nothing is read any more; what was read are the physical lines up
to the one in error, or all of them. -/
theorem pulls_follow_groups {block : Block} {splitter : Splitter}
    (h : ofBlock block = .ok splitter) :
    let lines := block.physicalLines
    ((∀ line ∈ lines, hidesContinuation line = false) →
      readable lines = groups lines ∧ readLines lines = lines) ∧
    (∀ k, (splitter.nth k).item = (expected lines)[k]?) ∧
    (∀ before group after, readable lines = before ++ group :: after → text group ≠ "" →
      (splitter.nth (texts before).length).item = some (.ok (text group)) ∧
        splitter.seen ((texts before).length + 1) = before.flatten ++ group) ∧
    ∀ k, (texts (readable lines)).length < k →
      splitter.seen k = readLines lines ∧ (splitter.nth k).item = none ∧ (splitter.nth k).saw = [] := by
  rw [eq_ofLines_of_ofBlock h]
  intro lines
  have hfollows := followsGroups lines
  refine ⟨fun hsound => ?_, hfollows.item, fun before group after hsplit htext => ?_, fun k hk => ?_⟩
  · exact ⟨Line.readable_of_sound hsound, Line.readLines_of_sound hsound⟩
  · refine ⟨?_, hfollows.upTo before group after hsplit htext⟩
    have htexts : texts (readable lines) = texts before ++ text group :: texts after := by
      rw [hsplit]
      simp [texts, htext]
    rw [hfollows.item, expected, htexts]
    simp
  · have hnow := hfollows.all k hk
    have hnext := hfollows.all (k + 1) (Nat.lt_succ_of_lt hk)
    refine ⟨hnow, ?_, ?_⟩
    · rw [hfollows.item, List.getElem?_eq_none]
      exact Nat.le_trans (expected_length_le lines) hk
    · rw [seen_concat, hnow] at hnext
      exact List.append_right_eq_self.mp hnext

/-- A glued line, a blank one, and a comment that hides its continuation. -/
theorem pulls_follow_groups_hidden :
    let lines := ["a \\", "b", " ", "# x\\", "c"]
    ofBlock (.lines lines) = .ok (ofLines lines) ∧
      ((ofLines lines).nth 0).item = some (.ok "a b") ∧
      ((ofLines lines).nth 1).item = some (.error (.hiddenContinuation "# x\\")) ∧
      (ofLines lines).seen 1 = ["a \\", "b"] ∧ (ofLines lines).seen 2 = ["a \\", "b", " ", "# x\\"] ∧
      ((ofLines lines).nth 2).item = none := by
  intro lines
  have hblock : ofBlock (.lines lines) = .ok (ofLines lines) := by rfl
  obtain ⟨-, hitem, hgroup, hend⟩ := pulls_follow_groups hblock
  refine ⟨hblock, ?_, ?_, ?_, ?_, ?_⟩
  · exact (hitem 0).trans (by rfl)
  · exact (hitem 1).trans (by rfl)
  · exact (hgroup [] ["a \\", "b"] [[" "]] (by rfl) (by decide +kernel)).2
  · exact (hend 2 (by decide)).1.trans (by rfl)
  · exact (hend 2 (by decide)).2.1

end Splitter

end Runbook
