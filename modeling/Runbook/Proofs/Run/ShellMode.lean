import Runbook.Proofs.Word.Cover
import Runbook.Proofs.Word.RoundTrip
import Runbook.Run.Runner

/-!
# Lines for a shell

What a runner that lets a shell read its lines plans, next to the same runner without a shell.

* `Planned.Requotes`: an entry of one plan is an entry of the other with its words quoted.
* `planItems_shell_iff`: a plan for a shell is the other plan with all its words quoted, and there is
  one if and only if they can be quoted; by induction on the items.
* `shell_mode_launches_same_words` and `shell_commands_are_inert` say what a shell makes of it: the
  same words, and nothing but words.
-/

namespace Runbook

/-- The second entry is for a shell what the first is without one: its words are quoted, and a shell
reads them back. -/
structure Planned.Requotes (direct shell : Planned) : Prop where
  line : direct.line = shell.line
  words : ∃ words command, direct.invocation = .argv words ∧ shell.invocation = .shell command ∧
    Word.toLine words = .ok command ∧ Word.ofLine command = .ok words

theorem Word.ofLine_cases (line : String) : ofLine line = .error .unbalanced ∨ ofLine line = .ok [] ∨
    ∃ word rest, ofLine line = .ok (word :: rest) := by
  unfold ofLine
  cases split? line.toList with
  | none => exact Or.inl rfl
  | some texts =>
    cases texts with
    | nil => exact Or.inr (Or.inl rfl)
    | cons word rest => exact Or.inr (Or.inr ⟨_, _, rfl⟩)

namespace Runner

open Word (Cover Quotable quoted ofLine toLine)

/-- The runner, with or without a shell. -/
def withShell (runner : Runner) (shell : Bool) : Runner :=
  { runner with options := { runner.options with shell } }

/-! ## Lines -/

section

variable (runner : Runner) {line : String}

theorem invocationFor_fault (h : ofLine line = .error .unbalanced) :
    runner.invocationFor line = .error (.words line .unbalanced) := by
  rw [invocationFor, h]

theorem invocationFor_comment (h : ofLine line = .ok []) : runner.invocationFor line = .ok none := by
  rw [invocationFor, h]

theorem invocationFor_words {word : String} {rest : List String}
    (h : ofLine line = .ok (word :: rest)) :
    runner.invocationFor line =
      if runner.options.shell then
        if Quotable (word :: rest) then .ok (some (.shell (quoted (word :: rest))))
        else .error (.words line .nul)
      else .ok (some (.argv (word :: rest))) := by
  rw [invocationFor, h]
  dsimp only
  rw [Word.toLine_eq]
  split_ifs <;> rfl

theorem invocationFor_eq_none_iff :
    runner.invocationFor line = .ok none ↔ ofLine line = .ok [] := by
  rcases Word.ofLine_cases line with h | h | ⟨word, rest, h⟩
  · simp [runner.invocationFor_fault h, h]
  · simp [runner.invocationFor_comment h, h]
  · rw [runner.invocationFor_words h, h]
    split_ifs <;> simp

theorem invocationFor_eq_argv_iff {words : List String} :
    runner.invocationFor line = .ok (some (.argv words)) ↔
      runner.options.shell = false ∧ ofLine line = .ok words ∧ words ≠ [] := by
  rcases Word.ofLine_cases line with h | h | ⟨word, rest, h⟩
  · simp [runner.invocationFor_fault h, h]
  · simp [runner.invocationFor_comment h, h]
  · rw [runner.invocationFor_words h, h]
    have hne : word :: rest = words → words ≠ [] := fun heq => heq ▸ List.cons_ne_nil word rest
    by_cases hshell : runner.options.shell = true
    · by_cases hquotable : Quotable (word :: rest) <;> simp [hshell, hquotable]
    · simpa [hshell] using hne

theorem invocationFor_eq_shell_iff {command : String} :
    runner.invocationFor line = .ok (some (.shell command)) ↔ runner.options.shell = true ∧
      ∃ words, ofLine line = .ok words ∧ words ≠ [] ∧ toLine words = .ok command := by
  rcases Word.ofLine_cases line with h | h | ⟨word, rest, h⟩
  · simp [runner.invocationFor_fault h, h]
  · simp [runner.invocationFor_comment h, h]
  · rw [runner.invocationFor_words h, h]
    by_cases hshell : runner.options.shell = true
    · by_cases hquotable : Quotable (word :: rest) <;>
        simp [hshell, hquotable, Word.toLine_eq_ok_iff]
    · simp [hshell]

/-- Only a shell has a fault of its own: words that cannot be quoted. -/
theorem invocationFor_eq_error_iff {error : Error} :
    runner.invocationFor line = .error error ↔
      (ofLine line = .error .unbalanced ∧ error = .words line .unbalanced) ∨
        (runner.options.shell = true ∧ error = .words line .nul ∧
          ∃ words, ofLine line = .ok words ∧ words ≠ [] ∧ ¬ Quotable words) := by
  rcases Word.ofLine_cases line with h | h | ⟨word, rest, h⟩
  · simp [runner.invocationFor_fault h, h, @eq_comm _ error]
  · simp [runner.invocationFor_comment h, h]
  · rw [runner.invocationFor_words h, h]
    by_cases hshell : runner.options.shell = true
    · by_cases hquotable : Quotable (word :: rest) <;> simp [hshell, hquotable, @eq_comm _ error]
    · simp [hshell]

end

section

variable {runner : Runner} {line : String}

theorem invocationFor_none_iff_none : (runner.withShell true).invocationFor line = .ok none ↔
    (runner.withShell false).invocationFor line = .ok none := by
  rw [invocationFor_eq_none_iff, invocationFor_eq_none_iff]

/-- Without a shell there are the same faults, but for words that cannot be quoted. -/
theorem invocationFor_error_iff {error : Error} :
    (runner.withShell false).invocationFor line = .error error ↔
      (runner.withShell true).invocationFor line = .error error ∧ error ≠ .words line .nul := by
  rw [invocationFor_eq_error_iff, invocationFor_eq_error_iff]
  constructor
  · rintro (⟨hline, rfl⟩ | ⟨⟨⟩, -⟩)
    exact ⟨Or.inl ⟨hline, rfl⟩, by simp⟩
  · rintro ⟨⟨hline, rfl⟩ | ⟨-, rfl, -⟩, hne⟩
    · exact Or.inl ⟨hline, rfl⟩
    · exact absurd rfl hne

/-- What a line launches in a shell is what it launches without one, quoted. -/
theorem invocationFor_shell_iff {command : Invocation} :
    (runner.withShell true).invocationFor line = .ok (some command) ↔
      ∃ invocation, (runner.withShell false).invocationFor line = .ok (some invocation) ∧
        Planned.Requotes ⟨line, invocation⟩ ⟨line, command⟩ := by
  constructor
  · intro h
    cases command with
    | argv words => cases ((invocationFor_eq_argv_iff _).mp h).1
    | shell command =>
      obtain ⟨-, words, hwords, hne, hcommand⟩ := (invocationFor_eq_shell_iff _).mp h
      exact ⟨.argv words, (invocationFor_eq_argv_iff _).mpr ⟨rfl, hwords, hne⟩, rfl, words, command,
        rfl, rfl, hcommand, Word.ofLine_of_toLine hcommand⟩
  · rintro ⟨invocation, h, -, words, command, rfl, rfl, hcommand, -⟩
    obtain ⟨-, hwords, hne⟩ := (invocationFor_eq_argv_iff _).mp h
    exact (invocationFor_eq_shell_iff _).mpr ⟨rfl, words, hwords, hne, hcommand⟩

end

/-! ## Plans -/

section

variable {runner : Runner}

/-- A line adds nothing to a plan or one entry. -/
theorem planItems_cons_eq_ok_iff {line : String} {items : List (Except Error String)}
    {planned : List Planned} :
    runner.planItems (.ok line :: items) = .ok planned ↔
      (runner.invocationFor line = .ok none ∧ runner.planItems items = .ok planned) ∨
        ∃ invocation rest, runner.invocationFor line = .ok (some invocation) ∧
          runner.planItems items = .ok rest ∧ ⟨line, invocation⟩ :: rest = planned := by
  rw [planItems]
  rcases runner.invocationFor line with error | _ | invocation
  · simp
  · simp
  · cases hrest : runner.planItems items with
    | error error => simp [Functor.map, Except.map]
    | ok rest => simp [Functor.map, Except.map]

/-- Without a shell only words are planned. -/
theorem exists_argv_of_planItems {items : List (Except Error String)} {entries : List Planned}
    (h : (runner.withShell false).planItems items = .ok entries) :
    ∀ entry ∈ entries, ∃ words, entry.invocation = .argv words := by
  induction items generalizing entries with
  | nil =>
    cases h
    exact fun entry hentry => nomatch hentry
  | cons item items ih =>
    cases item with
    | error error => cases h
    | ok line =>
      rcases planItems_cons_eq_ok_iff.mp h with ⟨-, hrest⟩ | ⟨invocation, rest, hline, hrest, rfl⟩
      · exact ih hrest
      · refine List.forall_mem_cons.mpr ⟨?_, ih hrest⟩
        cases invocation with
        | argv words => exact ⟨words, rfl⟩
        | shell command => cases ((invocationFor_eq_shell_iff _).mp hline).1

theorem planItems_shell_iff {items : List (Except Error String)} {planned : List Planned} :
    (runner.withShell true).planItems items = .ok planned ↔
      ∃ entries, (runner.withShell false).planItems items = .ok entries ∧
        List.Forall₂ Planned.Requotes entries planned := by
  induction items generalizing planned with
  | nil =>
    constructor
    · rintro ⟨⟩
      exact ⟨[], rfl, .nil⟩
    · rintro ⟨entries, ⟨⟩, ⟨⟩⟩
      rfl
  | cons item items ih =>
    cases item with
    | error error => exact ⟨fun h => (nomatch h), fun ⟨_, h, _⟩ => (nomatch h)⟩
    | ok line =>
      -- A comment adds an entry to neither plan, and all other lines add one to both.
      simp only [planItems_cons_eq_ok_iff]
      constructor
      · rintro (⟨hline, hrest⟩ | ⟨command, rest, hline, hrest, rfl⟩)
        · obtain ⟨entries, hentries, hquoted⟩ := ih.mp hrest
          exact ⟨entries, Or.inl ⟨invocationFor_none_iff_none.mp hline, hentries⟩, hquoted⟩
        · obtain ⟨entries, hentries, hquoted⟩ := ih.mp hrest
          obtain ⟨invocation, hdirect, hfirst⟩ := invocationFor_shell_iff.mp hline
          exact ⟨⟨line, invocation⟩ :: entries, Or.inr ⟨invocation, entries, hdirect, hentries, rfl⟩,
            .cons hfirst hquoted⟩
      · rintro ⟨entries, ⟨hline, hrest⟩ | ⟨invocation, rest, hline, hrest, rfl⟩, hquoted⟩
        · exact Or.inl ⟨invocationFor_none_iff_none.mpr hline, ih.mpr ⟨entries, hrest, hquoted⟩⟩
        · cases hquoted with
          | @cons _ first _ planned hfirst hquoted =>
            obtain ⟨_, command⟩ := first
            obtain rfl : line = _ := hfirst.line
            exact Or.inr ⟨command, planned, invocationFor_shell_iff.mpr ⟨invocation, hline, hfirst⟩,
              ih.mpr ⟨rest, hrest, hquoted⟩, rfl⟩

/-- An entry with words can be planned for a shell if and only if its words can be quoted. -/
theorem exists_requotes_iff {line : String} {words : List String} :
    (∃ planned, Planned.Requotes ⟨line, .argv words⟩ planned) ↔ Quotable words := by
  constructor
  · rintro ⟨planned, -, _, command, ⟨⟩, -, hcommand, -⟩
    exact (Word.toLine_eq_ok_iff.mp hcommand).1
  · intro h
    have hcommand : toLine words = .ok (quoted words) := Word.toLine_eq_ok_iff.mpr ⟨h, rfl⟩
    exact ⟨⟨line, .shell (quoted words)⟩, rfl, words, quoted words, rfl, rfl, hcommand,
      Word.ofLine_of_toLine hcommand⟩

theorem exists_forall₂_requotes_iff {entries : List Planned}
    (h : ∀ entry ∈ entries, ∃ words, entry.invocation = .argv words) :
    (∃ planned, List.Forall₂ Planned.Requotes entries planned) ↔
      ∀ entry ∈ entries, ∀ words, entry.invocation = .argv words → Quotable words := by
  induction entries with
  | nil => exact ⟨fun _ entry hentry => (nomatch hentry), fun _ => ⟨[], .nil⟩⟩
  | cons entry entries ih =>
    obtain ⟨⟨words, hwords⟩, hrest⟩ := List.forall_mem_cons.mp h
    obtain ⟨line, _⟩ := entry
    cases hwords
    rw [List.forall_mem_cons, ← ih hrest]
    constructor
    · rintro ⟨planned, hquoted⟩
      cases hquoted with
      | @cons _ first _ planned hfirst hquoted =>
        refine ⟨?_, planned, hquoted⟩
        rintro _ ⟨⟩
        exact exists_requotes_iff.mp ⟨first, hfirst⟩
    · rintro ⟨hfirst, planned, hquoted⟩
      obtain ⟨first, hfirst⟩ := exists_requotes_iff.mpr (hfirst words rfl)
      exact ⟨first :: planned, .cons hfirst hquoted⟩

/-- The splitter of a block does not depend on the shell. -/
theorem splitter_withShell (runner : Runner) (shell : Bool) (block : Block) :
    (runner.withShell shell).splitter block = runner.splitter block := rfl

theorem plan_shell_iff {block : Block} {planned : List Planned} :
    (runner.withShell true).plan block = .ok planned ↔
      ∃ entries, (runner.withShell false).plan block = .ok entries ∧
        List.Forall₂ Planned.Requotes entries planned := by
  rw [plan, plan, splitter_withShell, splitter_withShell]
  cases runner.splitter block with
  | error error => exact ⟨fun h => (nomatch h), fun ⟨_, h, _⟩ => (nomatch h)⟩
  | ok splitter => exact planItems_shell_iff

theorem exists_argv_of_plan {block : Block} {entries : List Planned}
    (h : (runner.withShell false).plan block = .ok entries) :
    ∀ entry ∈ entries, ∃ words, entry.invocation = .argv words := by
  rw [plan, splitter_withShell] at h
  cases hsplitter : runner.splitter block with
  | error error =>
    rw [hsplitter] at h
    cases h
  | ok splitter =>
    rw [hsplitter] at h
    exact exists_argv_of_planItems h

theorem exists_plan_shell_iff {block : Block} :
    (∃ planned, (runner.withShell true).plan block = .ok planned) ↔
      ∃ entries, (runner.withShell false).plan block = .ok entries ∧
        ∀ entry ∈ entries, ∀ words, entry.invocation = .argv words → Quotable words := by
  simp only [plan_shell_iff]
  rw [exists_comm]
  refine exists_congr fun entries => ?_
  rw [exists_and_left]
  exact and_congr_right fun h => exists_forall₂_requotes_iff (exists_argv_of_plan h)

end

/-- **A shell launches the same words.** Where a line launches words, it launches for a shell a command
that is read as these words, unless a word holds the character zero: then the line has a fault. In all
else a line is the same with and without a shell. Words can be written for a shell if and only if none
holds the character zero, and are read back. So a block has a plan for a shell if and only if it has
one without and its words can be quoted; both have the same lines in the same order. -/
theorem shell_mode_launches_same_words (runner : Runner) :
    let direct := runner.withShell false
    let shell := runner.withShell true
    (∀ line words, direct.invocationFor line = .ok (some (.argv words)) →
      (Quotable words → ∃ command, shell.invocationFor line = .ok (some (.shell command)) ∧
        ofLine command = .ok words) ∧
      (¬ Quotable words → shell.invocationFor line = .error (.words line .nul))) ∧
    (∀ line, shell.invocationFor line = .ok none ↔ direct.invocationFor line = .ok none) ∧
    (∀ line error, direct.invocationFor line = .error error ↔
      shell.invocationFor line = .error error ∧ error ≠ .words line .nul) ∧
    (∀ words, (∃ command, toLine words = .ok command) ↔ Quotable words) ∧
    (∀ words command, toLine words = .ok command → ofLine command = .ok words) ∧
    ∀ block,
      ((∃ planned, shell.plan block = .ok planned) ↔
        ∃ entries, direct.plan block = .ok entries ∧
          ∀ entry ∈ entries, ∀ words, entry.invocation = .argv words → Quotable words) ∧
      ∀ planned, shell.plan block = .ok planned ↔
        ∃ entries, direct.plan block = .ok entries ∧
          List.Forall₂ Planned.Requotes entries planned := by
  refine ⟨fun line words h => ?_, fun line => invocationFor_none_iff_none,
    fun line error => invocationFor_error_iff, fun words => ?_,
    fun words command => Word.ofLine_of_toLine,
    fun block => ⟨exists_plan_shell_iff, fun planned => plan_shell_iff⟩⟩
  · obtain ⟨-, hwords, hne⟩ := (invocationFor_eq_argv_iff _).mp h
    refine ⟨fun hquotable => ?_, fun hfault => ?_⟩
    · have hcommand : toLine words = .ok (quoted words) := Word.toLine_eq_ok_iff.mpr ⟨hquotable, rfl⟩
      exact ⟨quoted words, (invocationFor_eq_shell_iff _).mpr ⟨rfl, words, hwords, hne, hcommand⟩,
        Word.ofLine_of_toLine hcommand⟩
    · exact (invocationFor_eq_error_iff _).mpr (Or.inr ⟨rfl, rfl, words, hwords, hne, hfault⟩)
  · simp only [Word.toLine_eq_ok_iff, exists_and_left, exists_eq', and_true]

/-- A line whose words are quoted for a shell, and a line with a word that no shell can be given. -/
theorem shell_mode_launches_same_words_zero :
    let direct := (default : Runner).withShell false
    let shell := (default : Runner).withShell true
    direct.invocationFor "a 'b c'" = .ok (some (.argv ["a", "b c"])) ∧ Quotable ["a", "b c"] ∧
      (∃ command, shell.invocationFor "a 'b c'" = .ok (some (.shell command)) ∧
        ofLine command = .ok ["a", "b c"]) ∧
      direct.invocationFor "a b\x00" = .ok (some (.argv ["a", "b\x00"])) ∧ ¬ Quotable ["a", "b\x00"] ∧
      shell.invocationFor "a b\x00" = .error (.words "a b\x00" .nul) := by
  intro direct shell
  obtain ⟨hlaunches, -⟩ := shell_mode_launches_same_words default
  have hsound : direct.invocationFor "a 'b c'" = .ok (some (.argv ["a", "b c"])) := by decide +kernel
  have hzero : direct.invocationFor "a b\x00" = .ok (some (.argv ["a", "b\x00"])) := by decide +kernel
  have hquotable : Quotable ["a", "b c"] := by decide +kernel
  have hfault : ¬ Quotable ["a", "b\x00"] := by decide +kernel
  exact ⟨hsound, hquotable, (hlaunches _ _ hsound).1 hquotable, hzero, hfault,
    (hlaunches _ _ hzero).2 hfault⟩

/-- **A shell acts on nothing but the words.** In a command for a shell everything that is quoted is
closed; what stands bare are letters, digits, a few marks, quotes, and single spaces between the words;
double quotes hold no character that a shell acts on, and a backslash in them covers a quote or a
backslash. Between the spaces stand the words of the line, each spelled in parts. -/
theorem shell_commands_are_inert (runner : Runner) (line command : String)
    (h : runner.invocationFor line = .ok (some (.shell command))) :
    let met := Cover.scan .bare command.toList
    let pieces := met.splitOn (.bare, ' ')
    Cover.run .bare command.toList = .bare ∧
    (∀ c, (.bare, c) ∈ met →
      c.isAlphanum = true ∨ c ∈ "+-./:@]_".toList ∨ c = ' ' ∨ c = '\'' ∨ c = '"') ∧
    (∀ c, (.escaped, c) ∉ met) ∧
    (∀ c, (.double, c) ∈ met → c ∉ ['$', '\x60', '!', '^']) ∧
    (∀ c, (.doubleEscaped, c) ∈ met → c = '"' ∨ c = '\\') ∧
    (∀ cover c, (cover, c) ∈ met → cover.actsOn c = false) ∧
    ∃ words, ofLine line = .ok words ∧ words ≠ [] ∧ [] ∉ pieces ∧
      List.Forall₂ Word.Spells (words.map String.toList) (pieces.map (·.map Prod.snd)) := by
  obtain ⟨-, words, hwords, hne, hcommand⟩ := (runner.invocationFor_eq_shell_iff).mp h
  obtain ⟨-, rfl⟩ := Word.toLine_eq_ok_iff.mp hcommand
  intro met pieces
  have hpieces : pieces = Cover.quotedScans words := Cover.splitOn_scan_quoted words hne
  -- The spaces between the words are the only bare characters that no word is spelled with.
  have hmet : ∀ {cover c}, (cover, c) ∈ met → Cover.Inert (cover, c) ∨ (cover, c) = (.bare, ' ') :=
    Cover.inert_or_space words
  refine ⟨(Cover.scan_quoted words).1, fun c hc => ?_, fun c hc => ?_, fun c hc => ?_, fun c hc => ?_,
    fun cover c hc => ?_, words, hwords, hne, ?_, ?_⟩
  · obtain (h | h) | ⟨⟨⟩⟩ := hmet hc
    · rw [Word.allowsPlain, Bool.or_eq_true, List.contains_iff_mem] at h
      exact h.imp_right Or.inl
    · exact Or.inr (Or.inr (Or.inr h))
    · exact Or.inr (Or.inr (Or.inl rfl))
  · obtain h | ⟨⟨⟩⟩ := hmet hc
    exact h
  · obtain h | ⟨⟨⟩⟩ := hmet hc
    exact Cover.not_mem_of_allowsDouble h
  · obtain h | ⟨⟨⟩⟩ := hmet hc
    exact h
  · obtain h | ⟨⟨⟩⟩ := hmet hc
    · exact Cover.actsOn_of_inert h
    · rfl
  · rw [hpieces]
    exact Cover.nil_not_mem_quotedScans words
  · rw [hpieces]
    exact Cover.spells_quotedScans words

/-- The words `a;b`, `$HOME` and `it's|^` stay words for a shell. -/
theorem shell_commands_are_inert_operators :
    let shell := default.withShell true
    let command := "echo 'a;b' '$HOME' \"it's|\"'^'"
    shell.invocationFor "echo a;b $HOME it\\'s\\|^" = .ok (some (.shell command)) ∧
      ∀ cover c, (cover, c) ∈ Cover.scan .bare command.toList → cover.actsOn c = false := by
  have h : (default.withShell true).invocationFor "echo a;b $HOME it\\'s\\|^" =
      .ok (some (.shell "echo 'a;b' '$HOME' \"it's|\"'^'")) := by
    decide +kernel
  obtain ⟨-, -, -, -, -, hacts, -⟩ := shell_commands_are_inert _ _ _ h
  exact ⟨h, hacts⟩

end Runner

end Runbook
