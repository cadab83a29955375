import Runbook.CommandLine.Execute
import Runbook.Proofs.Line.Logical
import Runbook.Proofs.Run.Opening
import Runbook.Proofs.Run.ShellMode
import Runbook.Proofs.Text.Quoted
import Runbook.Proofs.Word.Characters

/-!
# What a dry run tells

The output of a dry run has no framing of its own: an entry is the logical line as it is and a line about
the invocation.

* `Planned.Fits`: neither holds a line feed. All entries of a plan fit (`fits_of_plan`), since logical
  lines hold no breaks, and words and quoted words hold only what stood in a line and what quotes.
* `Planned.framed_toText`, `Planned.told_injective`: an entry that fits is two lines, which tell it.
* `dry_runs_are_unambiguous`: so the output tells the plan.
-/

namespace Runbook

namespace Invocation

/-- What a dry run tells of an invocation. -/
def telling : Invocation → String
  | argv words => "  argv: " ++ Text.quotedList words
  | shell line => "  shell: " ++ line

theorem telling_argv_ne_shell (words : List String) (line : String) :
    (argv words).telling ≠ (shell line).telling := by
  intro h
  have hchars := congrArg String.toList h
  rw [telling, telling, String.toList_append, String.toList_append] at hchars
  exact absurd (congrArg (·[2]?) hchars) (by simp)

theorem telling_injective {a b : Invocation} (h : a.telling = b.telling) : a = b := by
  cases a with
  | argv words =>
    cases b with
    | argv others =>
      have hlist := Text.quotedList_injective (String.append_right_inj _ |>.mp h)
      rw [hlist]
    | shell line => exact absurd h (telling_argv_ne_shell words line)
  | shell line =>
    cases b with
    | argv words => exact absurd h.symm (telling_argv_ne_shell words line)
    | shell other => rw [String.append_right_inj _ |>.mp h]

end Invocation

namespace Planned

/-- No part of the entry holds a line feed. -/
structure Fits (planned : Planned) : Prop where
  line : '\n' ∉ planned.line.toList
  telling : '\n' ∉ planned.invocation.telling.toList

/-- The two lines of an entry. -/
def told (planned : Planned) : List Bytes := [utf8 planned.line, utf8 planned.invocation.telling]

theorem toText_eq (planned : Planned) :
    planned.toText = planned.line ++ "\n" ++ (planned.invocation.telling ++ "\n") := by
  rw [toText]
  cases planned.invocation <;> rfl

theorem framed_toText {planned : Planned} (h : planned.Fits) :
    Framed (utf8 planned.toText) planned.told := by
  rw [toText_eq, utf8_append]
  exact (framed_text h.line).append (framed_text h.telling)

theorem told_injective {a b : Planned} (h : a.told = b.told) : a = b := by
  obtain ⟨line, invocation⟩ := a
  obtain ⟨hline, htelling⟩ := List.cons.inj h
  obtain rfl : line = b.line := utf8_injective hline
  obtain rfl : invocation = b.invocation :=
    Invocation.telling_injective (utf8_injective (List.cons.inj htelling).1)
  rfl

theorem flatMap_told_injective {entries others : List Planned}
    (h : entries.flatMap told = others.flatMap told) : entries = others := by
  induction entries generalizing others with
  | nil =>
    cases others with
    | nil => rfl
    | cons other others => cases h
  | cons entry entries ih =>
    cases others with
    | nil => cases h
    | cons other others =>
      -- Every entry takes two lines, so that both sides are cut at the same place.
      obtain ⟨htold, hrest⟩ := List.append_inj h rfl
      rw [told_injective htold, ih hrest]

end Planned

namespace Runner

variable {runner : Runner}

/-! ## Entries of plans -/

theorem fits_of_invocationFor {line : String} (hline : '\n' ∉ line.toList) {invocation : Invocation}
    (h : runner.invocationFor line = .ok (some invocation)) : Planned.Fits ⟨line, invocation⟩ := by
  refine ⟨hline, ?_⟩
  cases invocation with
  | argv words =>
    rw [Invocation.telling, String.toList_append, List.mem_append, not_or]
    exact ⟨by decide, Text.newline_not_mem_quotedList words⟩
  | shell command =>
    obtain ⟨-, words, hwords, -, hcommand⟩ := runner.invocationFor_eq_shell_iff.mp h
    obtain ⟨-, rfl⟩ := Word.toLine_eq_ok_iff.mp hcommand
    rw [Invocation.telling, String.toList_append, List.mem_append, not_or]
    refine ⟨by decide, fun hmem => ?_⟩
    rcases Word.mem_of_mem_quoted hmem with hspace | hquotes | ⟨word, hword, hmem⟩
    · exact absurd hspace (by decide)
    · exact absurd hquotes (by decide)
    · rcases Word.mem_of_mem_ofLine hwords hword hmem with hmem | hbackslash
      · exact hline hmem
      · exact absurd hbackslash (by decide)

theorem fits_of_planItems {items : List (Except Error String)}
    (hitems : ∀ line, .ok line ∈ items → '\n' ∉ line.toList) {entries : List Planned}
    (h : runner.planItems items = .ok entries) : ∀ entry ∈ entries, entry.Fits := by
  induction items generalizing entries with
  | nil =>
    cases h
    exact fun _ hentry => nomatch hentry
  | cons item items ih =>
    have hrest : ∀ line, .ok line ∈ items → '\n' ∉ line.toList :=
      fun line hline => hitems line (List.mem_cons_of_mem _ hline)
    cases item with
    | error error => cases h
    | ok line =>
      rcases planItems_cons_eq_ok_iff.mp h with ⟨-, hplan⟩ | ⟨invocation, rest, hline, hplan, rfl⟩
      · exact ih hrest hplan
      · exact List.forall_mem_cons.mpr
          ⟨fits_of_invocationFor (hitems line List.mem_cons_self) hline, ih hrest hplan⟩

theorem fits_of_plan {block : Block} {entries : List Planned} (h : runner.plan block = .ok entries) :
    ∀ entry ∈ entries, entry.Fits := by
  cases hmisuse : runner.misuse? block with
  | some misuse =>
    rw [plan_of_misuse hmisuse] at h
    cases h
  | none =>
    have hbroken : block.broken? = none :=
      Option.map_eq_none_iff.mp (Option.or_eq_none_iff.mp hmisuse).1
    have hfree := Block.not_mem_breaks_of_broken? hbroken
    rw [plan_of_accepted hmisuse] at h
    refine fits_of_planItems (fun line hline => ?_) h
    exact fun hmem => (Splitter.isLogical_of_mem_expected hfree hline).free '\n' hmem (by decide)

end Runner

namespace CommandLine

variable {σ : Type}

theorem framed_dryRun {runner : Runner} {block : Block} {entries : List Planned}
    (h : runner.plan block = .ok entries) (source : String) (state : σ) :
    Framed (dryRun runner source block state).streams.out (entries.flatMap Planned.told) := by
  have hout : (dryRun runner source block state).streams.out =
      entries.flatMap fun entry => utf8 entry.toText := by
    rw [dryRun, h]
    change utf8 (String.join (entries.map Planned.toText)) = _
    rw [utf8_join, List.flatMap_map]
  rw [hout]
  exact framed_flatMap fun entry hentry => Planned.framed_toText (Runner.fits_of_plan h entry hentry)

/-- **The output of a dry run tells the plan.** If a block can be planned, the dry run writes two lines
for each entry, each with a line feed behind it and none inside; and whatever runner and block another
plan is of, with a shell or without one, its dry run writes the same bytes only if it has the same
entries. -/
theorem dry_runs_are_unambiguous {runner : Runner} {block : Block} {entries : List Planned}
    (h : runner.plan block = .ok entries) (source : String) (state : σ) :
    ∃ bytes lines, dryRun runner source block state = ⟨.ok 0, ⟨bytes, []⟩, state⟩ ∧
      Framed bytes lines ∧ lines.length = 2 * entries.length ∧
      ∀ {τ : Type} {other : Runner} {another : Block} {others : List Planned},
        other.plan another = .ok others → ∀ (name : String) (start : τ),
          (dryRun other name another start).streams.out = bytes → others = entries := by
  refine ⟨_, entries.flatMap Planned.told, ?_, framed_dryRun h source state, ?_, ?_⟩
  · rw [dryRun, h]
    rfl
  · simp [Planned.told, List.length_flatMap, Nat.mul_comm]
  · intro τ other another others hother name start hout
    have hframed := framed_dryRun hother name start
    rw [hout] at hframed
    exact Planned.flatMap_told_injective (hframed.unique (framed_dryRun h source state))

/-- A line whose command is the line itself, with a shell and without one. -/
theorem dry_runs_are_unambiguous_modes :
    Runner.default.plan (.text "a 'b, c'") = .ok [⟨"a 'b, c'", .argv ["a", "b, c"]⟩] ∧
    (Runner.default.withShell true).plan (.text "a 'b, c'") =
      .ok [⟨"a 'b, c'", .shell "a 'b, c'"⟩] ∧
    (∃ lines, Framed (dryRun .default "-" (.text "a 'b, c'") ()).streams.out lines ∧
      lines.length = 2) ∧
    (dryRun (Runner.default.withShell true) "-" (.text "a 'b, c'") ()).streams.out ≠
      (dryRun .default "-" (.text "a 'b, c'") ()).streams.out := by
  have hdirect : Runner.default.plan (.text "a 'b, c'") =
      .ok [⟨"a 'b, c'", .argv ["a", "b, c"]⟩] := by decide +kernel
  have hshell : (Runner.default.withShell true).plan (.text "a 'b, c'") =
      .ok [⟨"a 'b, c'", .shell "a 'b, c'"⟩] := by decide +kernel
  obtain ⟨bytes, lines, hrun, hframed, hlength, htells⟩ := dry_runs_are_unambiguous hdirect "-" ()
  have hout : (dryRun .default "-" (.text "a 'b, c'") ()).streams.out = bytes := by rw [hrun]
  rw [hout]
  refine ⟨hdirect, hshell, ⟨lines, hframed, hlength⟩, fun hsame => ?_⟩
  exact absurd (htells hshell "-" () hsame) (by decide)

end CommandLine

end Runbook
