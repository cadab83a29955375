import Runbook.CommandLine.Perform
import Runbook.Proofs.CommandLine.Records
import Runbook.Proofs.Run.Concatenation
import Runbook.Proofs.Run.ShellMode

/-!
# A block that is split, and its plan

Splitting collects all logical lines and then their words; a plan takes the words of each line before the
next line is looked for. The first error need not be the same.

* `readItem` gives the words of an item of the splitter, or the error that it is. Without a shell a plan
  is what is collected of them, but for the lines without words (`planItems_eq_readItems`).
* `collect_eq_error_iff`: the error of a collection is that of the first item that has one.
* `splitBlock_of_hidden`, `splitBlock_of_not_hidden`: what splitting comes to. Where the plan is complete
  and where it fails, these are `splitBlock_of_plan` and `splitBlock_of_failed_plan`.
* `valueOf?_entries`: what is written of lines with their words is read back as their array.
* `split_and_plan_tell_the_same` compares splitting and planning.
-/

namespace Runbook

open Line (groups hidesContinuation readable texts)

/-! ## What is collected -/

section

variable {ε α : Type}

theorem collect_oks (as : List α) : collect (as.map (.ok (ε := ε))) = .ok as := by
  induction as with
  | nil => rfl
  | cons a as ih =>
    rw [List.map_cons, collect, ih]
    rfl

theorem collect_oks_append_error (as : List α) (error : ε) (after : List (Except ε α)) :
    collect (as.map .ok ++ .error error :: after) = .error error := by
  rw [collect_append_of_ok (collect_oks as)]
  rfl

/-- Either no item is an error, or there is a first one. -/
theorem oks_or_error (items : List (Except ε α)) :
    (∃ as : List α, items = as.map .ok) ∨
      ∃ (as : List α) (error : ε) (after : List (Except ε α)),
        items = as.map .ok ++ .error error :: after := by
  induction items with
  | nil => exact .inl ⟨[], rfl⟩
  | cons item items ih =>
    cases item with
    | error error => exact .inr ⟨[], error, items, rfl⟩
    | ok a =>
      rcases ih with ⟨as, rfl⟩ | ⟨as, error, after, rfl⟩
      · exact .inl ⟨a :: as, rfl⟩
      · exact .inr ⟨a :: as, error, after, rfl⟩

theorem collect_eq_ok_iff {items : List (Except ε α)} {as : List α} :
    collect items = .ok as ↔ items = as.map .ok := by
  constructor
  · intro h
    rcases oks_or_error items with ⟨others, rfl⟩ | ⟨others, error, after, rfl⟩
    · rw [collect_oks] at h
      rw [Except.ok.inj h]
    · rw [collect_oks_append_error] at h
      cases h
  · rintro rfl
    exact collect_oks as

/-- Collecting fails with the first error. -/
theorem collect_eq_error_iff {items : List (Except ε α)} {error : ε} :
    collect items = .error error ↔
      ∃ (as : List α) (after : List (Except ε α)), items = as.map .ok ++ .error error :: after := by
  constructor
  · intro h
    rcases oks_or_error items with ⟨others, rfl⟩ | ⟨others, first, after, rfl⟩
    · rw [collect_oks] at h
      cases h
    · rw [collect_oks_append_error] at h
      exact ⟨others, after, by rw [Except.error.inj h]⟩
  · rintro ⟨as, after, rfl⟩
    exact collect_oks_append_error as error after

end

namespace CommandLine

open Host (Site)
open Word (ofLine)

/-! ## Items with their words -/

/-- A logical line with its words, or the error in its place. -/
def readItem (item : Except Error String) : Except Error (String × List String) := do
  let line ← item
  return (line, ← wordsOf line)

/-- What the lines that have words would launch without a shell. -/
def spoken (entries : List (String × List String)) : List Planned :=
  (entries.filter fun entry => entry.2 ≠ []).map fun entry => ⟨entry.1, .argv entry.2⟩

theorem readItem_line (line : String) :
    readItem (.ok line) =
      match ofLine line with
      | .ok words => .ok (line, words)
      | .error fault => .error (.words line fault) := by
  change (do return (line, ← wordsOf line)) = _
  rw [wordsOf]
  cases ofLine line <;> rfl

theorem readItem_eq_ok_iff {item : Except Error String} {entry : String × List String} :
    readItem item = .ok entry ↔ item = .ok entry.1 ∧ ofLine entry.1 = .ok entry.2 := by
  obtain ⟨line, words⟩ := entry
  cases item with
  | error error => exact ⟨fun h => (nomatch h), fun h => (nomatch h.1)⟩
  | ok own =>
    rw [readItem_line, Except.ok.injEq]
    constructor
    · intro h
      cases hwords : ofLine own with
      | error fault =>
        rw [hwords] at h
        cases h
      | ok found =>
        rw [hwords] at h
        obtain ⟨rfl, rfl⟩ := Prod.mk.inj (Except.ok.inj h)
        exact ⟨rfl, hwords⟩
    · rintro ⟨rfl, hwords⟩
      rw [hwords]

theorem readItem_eq_error_iff {item : Except Error String} {error : Error} :
    readItem item = .error error ↔ item = .error error ∨
      ∃ line, item = .ok line ∧ ofLine line = .error .unbalanced ∧ error = .words line .unbalanced := by
  cases item with
  | error other =>
    have hread : readItem (.error other) = .error other := rfl
    simp [hread]
  | ok own =>
    rw [readItem_line]
    rcases Word.ofLine_cases own with h | h | ⟨word, rest, h⟩ <;> simp [h, @eq_comm _ error]

theorem planItems_eq_readItems {runner : Runner} (h : runner.options.shell = false)
    (items : List (Except Error String)) :
    runner.planItems items = spoken <$> collect (items.map readItem) := by
  induction items with
  | nil => rfl
  | cons item items ih =>
    rw [List.map_cons]
    cases item with
    | error error => rfl
    | ok line =>
      rw [Runner.planItems, readItem_line, ih]
      rcases Word.ofLine_cases line with hline | hline | ⟨word, rest, hline⟩
      · rw [runner.invocationFor_fault hline, hline]
        rfl
      · rw [runner.invocationFor_comment hline, hline]
        dsimp only
        rw [collect]
        cases collect (items.map readItem) <;> rfl
      · rw [runner.invocationFor_words hline, hline, h]
        dsimp only
        rw [collect]
        cases collect (items.map readItem) <;> rfl

/-- Items that all have words are logical lines. -/
theorem map_readItem_eq_oks_iff {items : List (Except Error String)}
    {entries : List (String × List String)} :
    items.map readItem = entries.map .ok ↔ items = (entries.map (·.1)).map .ok ∧
      ∀ entry ∈ entries, ofLine entry.1 = .ok entry.2 := by
  induction items generalizing entries with
  | nil => cases entries <;> simp
  | cons item items ih =>
    cases entries with
    | nil => simp
    | cons entry entries =>
      simp only [List.map_cons, List.cons.injEq, List.forall_mem_cons, ih, readItem_eq_ok_iff]
      tauto

/-- The first of some items that has no words, with all those before it. -/
theorem exists_first_of_collect_readItem {items : List (Except Error String)} {error : Error}
    (h : collect (items.map readItem) = .error error) :
    ∃ before item after, items = before ++ item :: after ∧
      (∀ earlier ∈ before, ∃ line words, earlier = .ok line ∧ ofLine line = .ok words) ∧
      (item = .error error ∨ ∃ line, item = .ok line ∧ ofLine line = .error .unbalanced ∧
        error = .words line .unbalanced) := by
  obtain ⟨entries, behind, hitems⟩ := collect_eq_error_iff.mp h
  obtain ⟨before, rest, rfl, hbefore, hrest⟩ := List.map_eq_append_iff.mp hitems
  obtain ⟨item, after, rfl, hitem, -⟩ := List.map_eq_cons_iff.mp hrest
  refine ⟨before, item, after, rfl, fun earlier hearlier => ?_, readItem_eq_error_iff.mp hitem⟩
  have hread : readItem earlier ∈ entries.map .ok := hbefore ▸ List.mem_map_of_mem hearlier
  obtain ⟨entry, -, hentry⟩ := List.mem_map.mp hread
  obtain ⟨hline, hwords⟩ := readItem_eq_ok_iff.mp hentry.symm
  exact ⟨entry.1, entry.2, hline, hwords⟩

/-! ## What splitting comes to -/

theorem sound_entryJson (line : String) (words : List String) : Json.Sound (entryJson line words) := by
  refine Json.sound_ofMembers ?_
  simp only [List.forall_mem_cons, List.not_mem_nil, false_implies, implies_true, and_true]
  exact ⟨.string _, Json.sound_ofTexts words⟩

/-- What is told of logical lines with their words is read back as their array. -/
theorem valueOf?_entries (entries : List (String × List String)) :
    valueOf? (utf8 (String.ofList (Json.pretty
      (.array (entries.map fun entry => entryJson entry.1 entry.2))) ++ "\n")) =
      some (.array (entries.map fun entry => entryJson entry.1 entry.2)) := by
  refine valueOf?_pretty (.array fun item hitem => ?_)
  obtain ⟨entry, -, rfl⟩ := List.mem_map.mp hitem
  exact sound_entryJson entry.1 entry.2

section

variable {source text : String}

theorem logicalLines_text (text : String) :
    (Block.text text).logicalLines = collect (Splitter.expected (Block.text text).physicalLines) :=
  congrArg collect (Splitter.items_ofLines _)

theorem entries_eq (lines : List String) : entries lines = collect ((lines.map .ok).map readItem) := by
  rw [List.map_map]
  rfl

theorem splitBlock_of_hidden {line : String}
    (h : (Block.text text).physicalLines.find? hidesContinuation = some line) :
    splitBlock true source (.text text) =
      (.error (.during ("Failed to split " ++ source) (.error (.hiddenContinuation line))), .silent) := by
  rw [splitBlock, logicalLines_text, Splitter.expected, h]
  have hfails := collect_oks_append_error (texts (readable (Block.text text).physicalLines))
    (Error.hiddenContinuation line) []
  rw [Option.toList_some, List.map_singleton, hfails]

theorem expected_of_not_hidden {lines : List String} (h : lines.find? hidesContinuation = none) :
    Splitter.expected lines = (texts (groups lines)).map .ok := by
  have hsound : ∀ line ∈ lines, hidesContinuation line = false := by simpa using h
  rw [Splitter.expected, h, Line.readable_of_sound hsound]
  exact List.append_nil _

theorem splitBlock_of_not_hidden
    (h : (Block.text text).physicalLines.find? hidesContinuation = none) :
    splitBlock true source (.text text) =
      match collect ((Splitter.expected (Block.text text).physicalLines).map readItem) with
      | .error error => (.error (.bare error), .silent)
      | .ok entries =>
        (.ok 0, .printed (String.ofList (Json.pretty
          (.array (entries.map fun entry => entryJson entry.1 entry.2))) ++ "\n")) := by
  have hentries := entries_eq (texts (groups (Block.text text).physicalLines))
  rw [splitBlock, logicalLines_text, expected_of_not_hidden h, collect_oks]
  cases hcollect : collect (((texts (groups (Block.text text).physicalLines)).map .ok).map readItem) with
  | error error => simp only [if_true, hentries, hcollect]
  | ok entries => simp only [if_true, hentries, hcollect]

end

/-! ## Splitting and planning -/

theorem plan_text {runner : Runner} (hshell : runner.options.shell = false)
    (hvalid : runner.options.validate runner.primitive = .ok ()) (text : String) :
    runner.plan (.text text) =
      spoken <$> collect ((Splitter.expected (Block.text text).physicalLines).map readItem) := by
  have haccepted : runner.misuse? (.text text) = none :=
    runner.misuse?_eq_none_iff.mpr ⟨fun _ h => (nomatch h), hvalid⟩
  rw [Runner.plan_of_accepted haccepted, planItems_eq_readItems hshell]

theorem collect_of_plan {runner : Runner} (hshell : runner.options.shell = false)
    (hvalid : runner.options.validate runner.primitive = .ok ()) {text : String} :
    (∀ {planned}, runner.plan (.text text) = .ok planned → ∃ entries,
      collect ((Splitter.expected (Block.text text).physicalLines).map readItem) = .ok entries ∧
        spoken entries = planned) ∧
    ∀ {error}, runner.plan (.text text) = .error error →
      collect ((Splitter.expected (Block.text text).physicalLines).map readItem) = .error error := by
  rw [plan_text hshell hvalid]
  cases collect ((Splitter.expected (Block.text text).physicalLines).map readItem) with
  | error other => exact ⟨fun h => (nomatch h), fun h => congrArg _ (Except.error.inj h)⟩
  | ok entries => exact ⟨fun h => ⟨entries, rfl, Except.ok.inj h⟩, fun h => (nomatch h)⟩

/-- Where all items have words no line hides its continuation. -/
theorem find?_of_collect {lines : List String} {entries : List (String × List String)}
    (h : collect ((Splitter.expected lines).map readItem) = .ok entries) :
    lines.find? hidesContinuation = none ∧ entries.map (·.1) = texts (groups lines) ∧
      ∀ entry ∈ entries, ofLine entry.1 = .ok entry.2 := by
  obtain ⟨hitems, hwords⟩ := map_readItem_eq_oks_iff.mp (collect_eq_ok_iff.mp h)
  have hnone : lines.find? hidesContinuation = none := by
    cases hidden : lines.find? hidesContinuation with
    | none => rfl
    | some line =>
      have hmem : .error (.hiddenContinuation line) ∈ Splitter.expected lines := by
        rw [Splitter.expected, hidden]
        simp
      rw [hitems] at hmem
      obtain ⟨_, -, heq⟩ := List.mem_map.mp hmem
      cases heq
  rw [expected_of_not_hidden hnone] at hitems
  exact ⟨hnone, (List.map_injective_iff.mpr (fun _ _ => Except.ok.inj) hitems).symm, hwords⟩

section

variable {runner : Runner} {source text : String}

theorem splitBlock_of_plan (hshell : runner.options.shell = false)
    (hvalid : runner.options.validate runner.primitive = .ok ()) {planned : List Planned}
    (h : runner.plan (.text text) = .ok planned) :
    ∃ (entries : List (String × List String)) (printed : Bytes),
      splitBlock true source (.text text) = (.ok 0, ⟨printed, []⟩) ∧
      valueOf? printed = some (.array (entries.map fun entry =>
        .object [(some "line", .string (some entry.1)),
          (some "tokens", .array (entry.2.map fun word => .string (some word)))])) ∧
      entries.map (·.1) = texts (groups (Block.text text).physicalLines) ∧
      (∀ entry ∈ entries, ofLine entry.1 = .ok entry.2) ∧ spoken entries = planned := by
  obtain ⟨entries, hcollect, hspoken⟩ := (collect_of_plan hshell hvalid).1 h
  obtain ⟨hnone, hlines, hwords⟩ := find?_of_collect hcollect
  refine ⟨entries, _, ?_, valueOf?_entries entries, hlines, hwords, hspoken⟩
  rw [splitBlock_of_not_hidden hnone, hcollect]
  rfl

/-- Where no line hides its continuation, splitting fails as the plan does. -/
theorem splitBlock_of_failed_plan (hshell : runner.options.shell = false)
    (hvalid : runner.options.validate runner.primitive = .ok ()) {error : Error}
    (h : runner.plan (.text text) = .error error)
    (hnone : (Block.text text).physicalLines.find? hidesContinuation = none) :
    ∃ before line behind,
      texts (groups (Block.text text).physicalLines) = before ++ line :: behind ∧
      (∀ earlier ∈ before, ∃ words, ofLine earlier = .ok words) ∧
      ofLine line = .error .unbalanced ∧ error = .words line .unbalanced ∧
      splitBlock true source (.text text) = (.error (.bare (.words line .unbalanced)), .silent) := by
  have hcollect := (collect_of_plan hshell hvalid).2 h
  obtain ⟨before, item, after, hitems, hbefore, hitem⟩ := exists_first_of_collect_readItem hcollect
  rw [expected_of_not_hidden hnone] at hitems
  obtain ⟨front, rest, hlines, rfl, hrest⟩ := List.map_eq_append_iff.mp hitems
  obtain ⟨line, behind, rfl, rfl, -⟩ := List.map_eq_cons_iff.mp hrest
  rcases hitem with herror | ⟨own, hown, hwords, rfl⟩
  · cases herror
  · obtain rfl := Except.ok.inj hown
    refine ⟨front, line, behind, hlines, fun earlier hearlier => ?_, hwords, rfl, ?_⟩
    · obtain ⟨own, words, hown, hfound⟩ := hbefore _ (List.mem_map_of_mem hearlier)
      obtain rfl := Except.ok.inj hown
      exact ⟨words, hfound⟩
    · rw [splitBlock_of_not_hidden hnone, hcollect]

end

/-- **Splitting and planning tell the same of a block**, as long as nothing is wrong with it: both
succeed or neither does, and what is split into words is what the plan without a shell launches, but for
lines without words, which the plan leaves out. What they tell of a block with which something is wrong
need not be the same. A plan ends with the first of its items, in the order of the block, that hides its
continuation or gives no words. Splitting tells of the first physical line that hides its continuation,
wherever it stands, and only if there is none of the first logical line that gives no words. -/
theorem split_and_plan_tell_the_same {site after : Site} {file : Option String} {text : String}
    (hread : readBlock site file = (.ok text, after)) {runner : Runner}
    (hshell : runner.options.shell = false)
    (hvalid : runner.options.validate runner.primitive = .ok ()) :
    let block : Block := .text text
    let lines := block.physicalLines
    let finished := performSplit site file true
    ((∃ status, finished.result = .ok status) ↔ ∃ planned, runner.plan block = .ok planned) ∧
    (∀ planned, runner.plan block = .ok planned →
      ∃ (entries : List (String × List String)) (printed : Bytes),
        finished = ⟨.ok 0, ⟨printed, []⟩, after⟩ ∧
        valueOf? printed = some (.array (entries.map fun entry =>
          .object [(some "line", .string (some entry.1)),
            (some "tokens", .array (entry.2.map fun word => .string (some word)))])) ∧
        entries.map (·.1) = texts (groups lines) ∧
        (∀ entry ∈ entries, ofLine entry.1 = .ok entry.2) ∧
        (entries.filter fun entry => entry.2 ≠ []).map (fun entry => ⟨entry.1, .argv entry.2⟩) =
          planned) ∧
    ∀ error, runner.plan block = .error error →
      (∃ before item behind, (Splitter.ofLines lines).items = before ++ item :: behind ∧
        (∀ earlier ∈ before, ∃ line words, earlier = .ok line ∧ ofLine line = .ok words) ∧
        (item = .error error ∨ ∃ line, item = .ok line ∧ ofLine line = .error .unbalanced ∧
          error = .words line .unbalanced)) ∧
      (∀ line, lines.find? hidesContinuation = some line →
        finished = ⟨.error (.during ("Failed to split " ++ sourceName file)
          (.error (.hiddenContinuation line))), .silent, after⟩) ∧
      (lines.find? hidesContinuation = none →
        ∃ before line behind, texts (groups lines) = before ++ line :: behind ∧
          (∀ earlier ∈ before, ∃ words, ofLine earlier = .ok words) ∧
          ofLine line = .error .unbalanced ∧ error = .words line .unbalanced ∧
          finished = ⟨.error (.bare (.words line .unbalanced)), .silent, after⟩) := by
  intro block lines finished
  have hfinished : finished =
      ⟨(splitBlock true (sourceName file) block).1, (splitBlock true (sourceName file) block).2,
        after⟩ := by
    change performSplit site file true = _
    rw [performSplit, hread]
  rw [hfinished]
  refine ⟨⟨?_, ?_⟩, fun planned hplan => ?_, fun error herror => ⟨?_, fun line hline => ?_,
    fun hnone => ?_⟩⟩
  · rintro ⟨status, hstatus⟩
    cases hplan : runner.plan block with
    | ok planned => exact ⟨planned, rfl⟩
    | error error =>
      dsimp only at hstatus
      cases hidden : lines.find? hidesContinuation with
      | some line =>
        rw [splitBlock_of_hidden hidden] at hstatus
        cases hstatus
      | none =>
        obtain ⟨_, _, _, -, -, -, -, hsplit⟩ := splitBlock_of_failed_plan hshell hvalid hplan hidden
        rw [hsplit] at hstatus
        cases hstatus
  · rintro ⟨planned, hplan⟩
    obtain ⟨_, _, hsplit, -⟩ := splitBlock_of_plan hshell hvalid hplan
    exact ⟨0, by rw [hsplit]⟩
  · obtain ⟨entries, printed, hsplit, hvalue, hlines, hwords, hspoken⟩ :=
      splitBlock_of_plan hshell hvalid hplan
    exact ⟨entries, printed, by rw [hsplit], hvalue, hlines, hwords, hspoken⟩
  · rw [Splitter.items_ofLines]
    exact exists_first_of_collect_readItem ((collect_of_plan hshell hvalid).2 herror)
  · rw [splitBlock_of_hidden hline]
  · obtain ⟨before, line, behind, hlines, hbefore, hline, hfault, hsplit⟩ :=
      splitBlock_of_failed_plan hshell hvalid herror hnone
    exact ⟨before, line, behind, hlines, hbefore, hline, hfault, by rw [hsplit]⟩

theorem readBlock_of_file {site : Site} {path text : String} (hpath : (path != "-") = true)
    (h : site.view.readText path = .ok text) : readBlock site (some path) = (.ok text, site) := by
  rw [readBlock, Option.filter_some, if_pos hpath]
  dsimp only
  rw [h]
  rfl

/-- Lines and the words that they give. -/
theorem entries_eq_map {entries : List (String × List String)} {lines : List String}
    (hlines : entries.map (·.1) = lines) (hwords : ∀ entry ∈ entries, ofLine entry.1 = .ok entry.2) :
    entries = lines.map fun line => (line, (ofLine line).toOption.getD []) := by
  rw [← hlines, List.map_map]
  refine (List.map_id entries).symm.trans (List.map_congr_left fun entry hentry => ?_)
  dsimp only [id, Function.comp]
  rw [hwords entry hentry]
  rfl

/-- Two blocks. One has a comment between two lines, which is told and not planned. The other has a line
that gives no words, and behind it a comment that hides its continuation. -/
theorem split_and_plan_tell_the_same_comments :
    let sound := "a 'b c'\n# d\ne"
    let broken := "b 'c\n# d\\"
    let site := ((Site.standard []).withFile "a" (utf8 sound)).withFile "b" (utf8 broken)
    let runner : Runner := { primitive := .run }
    (runner.plan (.text sound) = .ok [⟨"a 'b c'", .argv ["a", "b c"]⟩, ⟨"e", .argv ["e"]⟩] ∧
      (performSplit site (some "a") true).result = .ok 0 ∧
      valueOf? (performSplit site (some "a") true).streams.out = some (.array [
        .object [(some "line", .string (some "a 'b c'")),
          (some "tokens", .array [.string (some "a"), .string (some "b c")])],
        .object [(some "line", .string (some "# d")), (some "tokens", .array [])],
        .object [(some "line", .string (some "e")), (some "tokens", .array [.string (some "e")])]])) ∧
    runner.plan (.text broken) = .error (.words "b 'c" .unbalanced) ∧
    performSplit site (some "b") true =
      ⟨.error (.during "Failed to split b" (.error (.hiddenContinuation "# d\\"))), .silent, site⟩ := by
  intro sound broken site runner
  have hvalid : runner.options.validate runner.primitive = .ok () := by rfl
  have hshell : runner.options.shell = false := rfl
  have hsound : readBlock site (some "a") = (.ok sound, site) := readBlock_of_file rfl (by decide +kernel)
  have hbroken : readBlock site (some "b") = (.ok broken, site) :=
    readBlock_of_file rfl (by decide +kernel)
  obtain ⟨-, htold, -⟩ := split_and_plan_tell_the_same hsound hshell hvalid
  obtain ⟨-, -, hfails⟩ := split_and_plan_tell_the_same hbroken hshell hvalid
  have hplan : runner.plan (.text sound) =
      .ok [⟨"a 'b c'", .argv ["a", "b c"]⟩, ⟨"e", .argv ["e"]⟩] := by
    rw [Runner.plan_of_accepted (by rfl)]
    decide +kernel
  have hfault : runner.plan (.text broken) = .error (.words "b 'c" .unbalanced) := by
    rw [Runner.plan_of_accepted (by rfl)]
    decide +kernel
  have hhidden : (Block.text broken).physicalLines.find? hidesContinuation = some "# d\\" := by
    decide +kernel
  refine ⟨⟨hplan, ?_⟩, hfault, (hfails _ hfault).2.1 _ hhidden⟩
  obtain ⟨entries, printed, hfinished, hvalue, hlines, hwords, -⟩ := htold _ hplan
  rw [hfinished]
  refine ⟨rfl, ?_⟩
  have hentries : ((texts (groups (Block.text sound).physicalLines)).map fun line =>
      (line, (ofLine line).toOption.getD [])) =
        [("a 'b c'", ["a", "b c"]), ("# d", []), ("e", ["e"])] := by
    decide +kernel
  rw [hvalue, entries_eq_map hlines hwords, hentries]
  rfl

end CommandLine

end Runbook
