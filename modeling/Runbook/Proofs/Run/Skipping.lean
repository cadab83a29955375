import Runbook.Host.Running
import Runbook.Proofs.Line.Logical
import Runbook.Proofs.Run.Errors
import Runbook.Proofs.Run.ShellMode

/-!
# What is skipped and what is launched

A logical line is left behind exactly if it begins with a hash, and nothing empty is ever launched.

* `Word.Lexer.Begun` is the invariant of the lexer: a word is being read or is complete. It holds after
  the first character of a logical line other than a hash (`begun_step_start`), and from then on
  (`begun_run`), so that only a hash makes a line without words (`split?_eq_nil_iff`).
* `isEmpty_of_invocationFor`: what a line is made into is not empty. So no turn and no run asks for
  anything empty, whatever comes of its launches (`keeps_turn`, `keeps_dialogue`), and what a launcher
  does with a request that is empty makes no difference (`nth_congr`, `execute_congr`).
* `only_comments_are_skipped` puts this together, down to the site at which children are started.
-/

namespace Runbook

/-- There is nothing to launch: no program, or no line for a shell. -/
def Invocation.isEmpty : Invocation → Bool
  | argv words => words.isEmpty
  | shell line => line.isEmpty

/-! ## Lines without words -/

namespace Word

namespace Lexer

/-- A word is being read, or one is complete. -/
def Begun (lexer : Lexer) : Prop := (lexer.mode ≠ .gap ∧ lexer.mode ≠ .comment) ∨ lexer.words ≠ []

theorem begun_stepPlain (lexer : Lexer) (c : Char) : (lexer.stepPlain c).Begun := by
  unfold stepPlain
  split_ifs <;> exact .inl (by simp)

theorem begun_step {lexer : Lexer} (h : lexer.Begun) (c : Char) : (lexer.step c).Begun := by
  unfold step
  cases hmode : lexer.mode with
  | gap =>
    have hwords : lexer.words ≠ [] := h.resolve_left fun hnot => hnot.1 hmode
    dsimp only
    split_ifs
    · exact .inr hwords
    · exact .inr hwords
    · exact lexer.begun_stepPlain c
  | comment =>
    have hwords : lexer.words ≠ [] := h.resolve_left fun hnot => hnot.2 hmode
    dsimp only
    split_ifs <;> exact .inr hwords
  | plain =>
    dsimp only
    split_ifs
    · exact .inr (List.cons_ne_nil _ _)
    · exact lexer.begun_stepPlain c
  | escaped | single | double | doubleEscaped =>
    dsimp only
    split_ifs <;> exact .inl (by simp [push, hmode])

theorem begun_run {lexer : Lexer} (h : lexer.Begun) (text : List Char) : (lexer.run text).Begun := by
  induction text generalizing lexer with
  | nil => exact h
  | cons c text ih => exact ih (begun_step h c)

/-- Any character begins a word but a separator and a hash. -/
theorem begun_step_start {c : Char} (hgap : isGap c = false) (hhash : c ≠ '#') :
    (start.step c).Begun := by
  have hstep : start.step c = start.stepPlain c := by simp [step, start, hgap, hhash]
  rw [hstep]
  exact begun_stepPlain start c

theorem finish?_ne_nil_of_begun {lexer : Lexer} (h : lexer.Begun) : lexer.finish? ≠ some [] := by
  unfold finish?
  split
  · rename_i hmode
    have hwords : lexer.words ≠ [] := h.resolve_left fun hnot => hnot.1 hmode
    simpa using hwords
  · rename_i hmode
    have hwords : lexer.words ≠ [] := h.resolve_left fun hnot => hnot.2 hmode
    simpa using hwords
  · simp
  all_goals exact Option.some_ne_none _ |>.symm

theorem finish?_run_hash_start {rest : List Char} (hline : '\n' ∉ rest) :
    (start.run ('#' :: rest)).finish? = some [] := by
  rw [run_cons, run_comment rfl hline]
  rfl

end Lexer

/-- A line that begins with no separator is without words exactly if a hash is its first character. -/
theorem split?_eq_nil_iff {c : Char} {rest : List Char} (hgap : isGap c = false)
    (hline : '\n' ∉ rest) : split? (c :: rest) = some [] ↔ c = '#' := by
  constructor
  · intro h
    by_contra hhash
    have hbegun := Lexer.begun_run (Lexer.begun_step_start hgap hhash) rest
    exact Lexer.finish?_ne_nil_of_begun hbegun h
  · rintro rfl
    exact Lexer.finish?_run_hash_start hline

/-- A logical line is without words exactly if it begins with a hash. -/
theorem ofLine_eq_nil_iff {line : String} (h : Line.IsLogical line) :
    ofLine line = .ok [] ↔ line.toList.head? = some '#' := by
  obtain ⟨c, rest, htext, hblank⟩ := h.starts
  have hline : '\n' ∉ rest := by
    intro hmem
    exact h.free '\n' (by rw [htext]; exact List.mem_cons_of_mem _ hmem) (by decide)
  have hsplit := split?_eq_nil_iff (Lexer.isGap_eq_false hblank) hline
  have hwords : ofLine line = .ok [] ↔ split? (c :: rest) = some [] := by
    unfold ofLine
    rw [htext]
    cases split? (c :: rest) <;> simp
  rw [hwords, hsplit, htext, List.head?_cons, Option.some.injEq]

end Word

namespace Runner

open Host (Departure Site)

variable {runner : Runner}

/-! ## What a line is made into -/

/-- Words make a line for a shell that is not empty. -/
theorem quoted_ne_empty {words : List String} (h : words ≠ []) : Word.quoted words ≠ "" := by
  intro hempty
  have hback : Word.ofLine (Word.quoted words) = .ok [] := by rw [hempty]; rfl
  rw [Word.ofLine_quoted] at hback
  exact h (Except.ok.inj hback)

theorem isEmpty_of_invocationFor {line : String} {invocation : Invocation}
    (h : runner.invocationFor line = .ok (some invocation)) : invocation.isEmpty = false := by
  cases invocation with
  | argv words =>
    obtain ⟨-, -, hne⟩ := runner.invocationFor_eq_argv_iff.mp h
    exact List.isEmpty_eq_false_iff.mpr hne
  | shell command =>
    obtain ⟨-, words, -, hne, hcommand⟩ := runner.invocationFor_eq_shell_iff.mp h
    obtain ⟨-, rfl⟩ := Word.toLine_eq_ok_iff.mp hcommand
    have hquoted := quoted_ne_empty hne
    simpa [Invocation.isEmpty] using hquoted

theorem invocationFor_of_isLogical {line : String} (h : Line.IsLogical line) :
    (runner.invocationFor line = .ok none ↔ line.toList.head? = some '#') ∧
      (line.toList.head? ≠ some '#' →
        (∃ invocation, runner.invocationFor line = .ok (some invocation)) ∨
          ∃ fault, runner.invocationFor line = .error (.words line fault)) := by
  have hnone : runner.invocationFor line = .ok none ↔ line.toList.head? = some '#' := by
    rw [runner.invocationFor_eq_none_iff, Word.ofLine_eq_nil_iff h]
  refine ⟨hnone, fun hhash => ?_⟩
  cases hline : runner.invocationFor line with
  | error error =>
    obtain ⟨fault, rfl⟩ := exists_fault_of_invocationFor hline
    exact .inr ⟨fault, rfl⟩
  | ok invocation? =>
    cases invocation? with
    | none => exact absurd (hnone.mp hline) hhash
    | some invocation => exact .inl ⟨invocation, rfl⟩

/-! ## What is launched -/

/-- A request holds something. -/
def holdsSomething (request : Request) : Prop := request.invocation.isEmpty = false

/-- An event is not the launch of a request that is empty. -/
def tellsSomething : Event → Prop
  | .launched request _ => holdsSomething request
  | .echoed _ | .failed _ _ => True

section

variable (runner : Runner)

theorem tellsSomething_of_mem_echoes {lines : List String} :
    ∀ event ∈ runner.echoes lines, tellsSomething event := by
  intro event hevent
  unfold echoes at hevent
  split_ifs at hevent
  · obtain ⟨line, -, rfl⟩ := List.mem_map.mp hevent
    trivial
  · cases hevent

theorem keeps_turnFrom {bound : Nat} (splitter : Splitter) (h : splitter.remaining ≤ bound) :
    (runner.turnFrom splitter h).Keeps holdsSomething tellsSomething := by
  induction splitter using Splitter.pull_induction generalizing bound with
  | step splitter ih =>
    rw [turnFrom]
    refine Dialogue.keeps_tellAll runner.tellsSomething_of_mem_echoes ?_
    split
    · trivial
    · rename_i item hitem
      cases item with
      | error error => trivial
      | ok line =>
        dsimp only
        cases hline : runner.invocationFor line with
        | error error => trivial
        | ok invocation? =>
          cases invocation? with
          | none => exact ih _ hitem _
          | some invocation =>
            have hasked : holdsSomething (runner.primitive.request runner.options invocation) :=
              isEmpty_of_invocationFor hline
            refine ⟨hasked, fun launched => ⟨hasked, ?_⟩⟩
            cases runner.primitive.judge runner.options runner.encoding invocation launched.outcome with
            | ok completion => trivial
            | error failure =>
              dsimp only
              split_ifs
              · exact ⟨trivial, ih _ hitem _⟩
              · trivial

theorem keeps_turn (progress : Progress) :
    (runner.turn progress).Keeps holdsSomething tellsSomething := by
  unfold turn
  split_ifs
  · trivial
  · exact runner.keeps_turnFrom _ _

theorem keeps_turns (progress : Progress) :
    (runner.turns progress).Keeps holdsSomething tellsSomething := by
  fun_induction runner.turns progress with
  | case1 progress ih =>
    refine Dialogue.keeps_bind (runner.keeps_turn progress) fun turn => ?_
    unfold Turn.onward
    split
    · trivial
    · trivial
    · rename_i completion hitem
      exact Dialogue.keeps_map (ih _ (turn.isLess (Option.isSome_of_mem hitem)))

theorem keeps_dialogue (block : Block) :
    (runner.dialogue block).Keeps holdsSomething tellsSomething := by
  rw [dialogue]
  cases runner.opens block with
  | error error => trivial
  | ok progress => exact runner.keeps_turns progress

end

section

variable {runner : Runner} {σ : Type} {launcher other : Launcher σ}

/-- What a launcher does with a request that is empty makes no difference to a run. -/
theorem nth_congr (h : ∀ request, holdsSomething request → other request = launcher request)
    (progress : Progress) (state : σ) (k : Nat) :
    runner.nth other progress state k = runner.nth launcher progress state k := by
  have hpull : ∀ progress state,
      runner.pull other progress state = runner.pull launcher progress state := fun progress state =>
    congrArg Pulled.ofTurn (Dialogue.run_congr (runner.keeps_turn progress) h state)
  induction k with
  | zero => exact hpull progress state
  | succ k ih => rw [nth, nth, ih, hpull]

theorem execute_congr (h : ∀ request, holdsSomething request → other request = launcher request)
    (block : Block) (state : σ) :
    runner.execute other block state = runner.execute launcher block state := by
  rw [execute, execute, Dialogue.run_congr (runner.keeps_dialogue block) h]

theorem holdsSomething_of_nth {progress : Progress} {state : σ} {k : Nat} {request : Request}
    {spilled : Streams} (h : .launched request spilled ∈ (runner.nth launcher progress state k).events) :
    holdsSomething request := by
  have hpull : ∀ progress state,
      .launched request spilled ∈ (runner.pull launcher progress state).events → holdsSomething request :=
    fun progress state hmem => Dialogue.mem_run (runner.keeps_turn progress) hmem
  cases k with
  | zero => exact hpull _ _ h
  | succ k => exact hpull _ _ h

theorem holdsSomething_of_execute {block : Block} {state : σ} {request : Request} {spilled : Streams}
    (h : .launched request spilled ∈ (runner.execute launcher block state).events) :
    holdsSomething request :=
  Dialogue.mem_run (runner.keeps_dialogue block) h

end

/-! ## Blocks -/

/-- A site starts something for each request that is not empty. -/
theorem exists_command_iff {request : Request} :
    (∃ command, Site.command request = .ok command) ↔ request.invocation ≠ .argv [] := by
  unfold Site.command
  cases request.invocation with
  | argv words => cases words <;> simp
  | shell line => simp

/-- **Only comments are skipped, and nothing empty is launched.** Of the logical lines of a block those
that begin with a hash give nothing, and each other one gives an invocation or an error about its words.
So no run of a block, at once or pull by pull, launches an invocation without words or a line without
characters, and no launcher is ever asked for one: whatever another launcher does with such a request, the
run is the same. At a site each request of a run therefore has something to start, and it makes no
difference what is done with requests that have nothing, in the four functions that run a block either. -/
theorem only_comments_are_skipped (runner : Runner) (block : Block) :
    (∀ splitter, Splitter.ofBlock block = .ok splitter → ∀ k line,
      (splitter.nth k).item = some (.ok line) →
        (runner.invocationFor line = .ok none ↔ line.toList.head? = some '#') ∧
          (line.toList.head? ≠ some '#' →
            (∃ invocation, runner.invocationFor line = .ok (some invocation)) ∨
              ∃ fault, runner.invocationFor line = .error (.words line fault))) ∧
    (∀ {σ : Type} (launcher : Launcher σ) (state : σ),
      (∀ request spilled,
        .launched request spilled ∈ (runner.execute launcher block state).events →
          request.invocation.isEmpty = false) ∧
      (∀ progress, runner.opens block = .ok progress → ∀ k request spilled,
        .launched request spilled ∈ (runner.nth launcher progress state k).events →
          request.invocation.isEmpty = false) ∧
      ∀ other : Launcher σ,
        (∀ request, request.invocation.isEmpty = false → other request = launcher request) →
          runner.execute other block state = runner.execute launcher block state ∧
            ∀ progress, runner.opens block = .ok progress → ∀ k,
              runner.nth other progress state k = runner.nth launcher progress state k) ∧
    ∀ (site : Site),
      (∀ request spilled,
        .launched request spilled ∈ ((runner.dialogue block).venture Site.launch site).told →
          ∃ command, Site.command request = .ok command) ∧
      (∀ progress request spilled,
        .launched request spilled ∈ ((runner.turn progress).venture Site.launch site).told →
          ∃ command, Site.command request = .ok command) ∧
      ∀ other : Venture Departure Site,
        (∀ request, (∃ command, Site.command request = .ok command) →
          other request = Site.launch request) →
        (runner.dialogue block).venture other site = (runner.dialogue block).venture Site.launch site ∧
          (∀ progress,
            (runner.turn progress).venture other site = (runner.turn progress).venture Site.launch site) ∧
          (({ primitive := .call } : Runner).dialogue block).venture other site = Site.call block site ∧
          (({ primitive := .checkCall } : Runner).dialogue block).venture other site =
            Site.checkCall block site ∧
          (({ primitive := .checkOutput } : Runner).dialogue block).venture other site =
            Site.checkOutput block site ∧
          (({ primitive := .run } : Runner).dialogue block).venture other site = Site.run block site := by
  have hcommand : ∀ request, holdsSomething request → ∃ command, Site.command request = .ok command := by
    intro request hrequest
    refine exists_command_iff.mpr fun hnone => ?_
    rw [holdsSomething, hnone] at hrequest
    cases hrequest
  refine ⟨fun splitter hsplitter k line hline => ?_, fun launcher state => ⟨?_, ?_, ?_⟩,
    fun site => ⟨?_, ?_, ?_⟩⟩
  · exact invocationFor_of_isLogical (Splitter.isLogical_of_nth hsplitter hline)
  · exact fun request spilled => holdsSomething_of_execute
  · exact fun progress _ k request spilled => holdsSomething_of_nth
  · exact fun other h => ⟨execute_congr h block state, fun progress _ => nth_congr h progress state⟩
  · exact fun request spilled hmem =>
      hcommand request (Dialogue.mem_venture (runner.keeps_dialogue block) hmem)
  · exact fun progress request spilled hmem =>
      hcommand request (Dialogue.mem_venture (runner.keeps_turn progress) hmem)
  · intro other hother
    have h : ∀ request, holdsSomething request → other request = Site.launch request :=
      fun request hrequest => hother request (hcommand request hrequest)
    exact ⟨Dialogue.venture_congr (runner.keeps_dialogue block) h site,
      fun progress => Dialogue.venture_congr (runner.keeps_turn progress) h site,
      Dialogue.venture_congr (keeps_dialogue _ block) h site,
      Dialogue.venture_congr (keeps_dialogue _ block) h site,
      Dialogue.venture_congr (keeps_dialogue _ block) h site,
      Dialogue.venture_congr (keeps_dialogue _ block) h site⟩

/-- A comment behind a blank, and a line that launches the empty word. -/
theorem only_comments_are_skipped_quotes :
    let runner : Runner := { primitive := .call }
    let block : Block := .text "\u00A0#a\n''"
    let launcher : Launcher Nat := fun _ count => (⟨.ok ⟨0, none, none⟩, .silent⟩, count + 1)
    let other : Launcher Nat := fun request count =>
      if request.invocation.isEmpty then (⟨.error .noEntry, .silent⟩, 0) else launcher request count
    Splitter.ofBlock block = .ok (.ofLines ["\u00A0#a", "''"]) ∧
      ((Splitter.ofLines ["\u00A0#a", "''"]).nth 0).item = some (.ok "#a") ∧
      runner.invocationFor "#a" = .ok none ∧
      ((Splitter.ofLines ["\u00A0#a", "''"]).nth 1).item = some (.ok "''") ∧
      (∃ invocation, runner.invocationFor "''" = .ok (some invocation)) ∧
      runner.execute other block 0 = runner.execute launcher block 0 := by
  intro runner block launcher other
  have hsplitter : Splitter.ofBlock block = .ok (.ofLines ["\u00A0#a", "''"]) := by rfl
  have hcomment : ((Splitter.ofLines ["\u00A0#a", "''"]).nth 0).item = some (.ok "#a") := by rfl
  have hempty : ((Splitter.ofLines ["\u00A0#a", "''"]).nth 1).item = some (.ok "''") := by rfl
  obtain ⟨hlines, hruns, -⟩ := only_comments_are_skipped runner block
  refine ⟨hsplitter, hcomment, (hlines _ hsplitter 0 _ hcomment).1.mpr (by rfl), hempty, ?_, ?_⟩
  · refine ((hlines _ hsplitter 1 _ hempty).2 (by decide)).resolve_right ?_
    rintro ⟨fault, hfault⟩
    cases hfault
  · refine ((hruns launcher 0).2.2 other fun request hrequest => ?_).1
    funext count
    exact if_neg (Bool.eq_false_iff.mp hrequest)

end Runner

end Runbook
