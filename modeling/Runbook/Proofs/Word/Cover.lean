import Mathlib.Data.List.Forall2
import Runbook.Proofs.Word.Spelling

/-!
# What a shell acts on

Which characters of a line a POSIX shell acts on is decided by what covers them: single quotes, double
quotes or a backslash.

* `Cover.scan` pairs each character of a text with its cover; `Cover.run` is the cover behind the text.
* `Cover.actsOn`: the characters with which a shell does more than to put them into a word.
* `Cover.Inert` is what holds of each character of a spelled word, behind which nothing is covered any
  more (`Harmless.of_spells`, by induction on the spelling). A shell acts on none of them
  (`actsOn_of_inert`).
* `scan_quoted`: quoted words are scanned each on its own, and the bare spaces are those between them
  (`splitOn_scan_quoted`).
-/

namespace Runbook.Word

/-- What covers a character. -/
inductive Cover where
  | bare
  /-- A backslash outside quotes. -/
  | escaped
  | single
  | double
  /-- A backslash in double quotes. -/
  | doubleEscaped
  deriving DecidableEq, Repr

namespace Cover

/-- What covers the next character. -/
def next : Cover → Char → Cover
  | bare, c => if c = '\'' then single else if c = '"' then double else if c = '\\' then escaped else bare
  | escaped, _ => bare
  | single, c => if c = '\'' then bare else single
  | double, c => if c = '"' then bare else if c = '\\' then doubleEscaped else double
  | doubleEscaped, _ => double

/-- What covers the character behind a text. -/
def run (cover : Cover) (text : List Char) : Cover := text.foldl next cover

/-- The characters of a text, each with what covers it. -/
def scan (cover : Cover) : List Char → List (Cover × Char)
  | [] => []
  | c :: text => (cover, c) :: (cover.next c).scan text

/-- The characters that a shell acts on. Outside quotes these are the operators and redirections, the
separators of commands, and what begins an expansion, a pattern, an assignment or a comment; in double
quotes these are what begins an expansion and what recalls a line. -/
def active : Cover → List Char
  | bare => ['|', '&', ';', '<', '>', '(', ')', '$', '\x60', '\\', '*', '?', '[', '#', '~', '=', '%', '!', '^',
    '\x7b', '\x7d', '\t', '\n']
  | double => ['$', '\x60', '!', '^']
  | _ => []

/-- A shell acts on the character. -/
def actsOn (cover : Cover) (c : Char) : Bool := cover.active.contains c

theorem run_cons (cover : Cover) (c : Char) (text : List Char) :
    cover.run (c :: text) = (cover.next c).run text := rfl

theorem run_append (cover : Cover) (x y : List Char) :
    cover.run (x ++ y) = (cover.run x).run y :=
  List.foldl_append

theorem scan_append (cover : Cover) (x y : List Char) :
    cover.scan (x ++ y) = cover.scan x ++ (cover.run x).scan y := by
  induction x generalizing cover with
  | nil => rfl
  | cons c x ih => exact congrArg _ (ih (cover.next c))

theorem map_snd_scan (cover : Cover) (text : List Char) : (cover.scan text).map Prod.snd = text := by
  induction text generalizing cover with
  | nil => rfl
  | cons c text ih => exact congrArg _ (ih (cover.next c))

/-! ## Spelled words -/

/-- A character of a spelled word, with what covers it. -/
def Inert : Cover × Char → Prop
  | (bare, c) => allowsPlain c = true ∨ c = '\'' ∨ c = '"'
  | (escaped, _) => False
  | (single, _) => True
  | (double, c) => allowsDouble c = true
  | (doubleEscaped, c) => c = '"' ∨ c = '\\'

theorem next_of_allowsPlain {c : Char} (h : allowsPlain c = true) : bare.next c = bare := by
  have hne : c ≠ '\'' ∧ c ≠ '"' ∧ c ≠ '\\' := by
    refine ⟨?_, ?_, ?_⟩ <;> rintro rfl <;> cases h
  rw [next, if_neg hne.1, if_neg hne.2.1, if_neg hne.2.2]

/-- A text of inert characters, behind which the cover is the one before it. -/
structure Harmless (cover : Cover) (text : List Char) : Prop where
  closes : cover.run text = cover
  inert : ∀ met ∈ cover.scan text, Inert met

namespace Harmless

theorem nil (cover : Cover) : cover.Harmless [] := ⟨rfl, fun _ hmet => nomatch hmet⟩

theorem append {cover : Cover} {x y : List Char} (hx : cover.Harmless x) (hy : cover.Harmless y) :
    cover.Harmless (x ++ y) where
  closes := by rw [run_append, hx.closes, hy.closes]
  inert := by
    rw [scan_append, hx.closes]
    exact List.forall_mem_append.mpr ⟨hx.inert, hy.inert⟩

/-- A character that leaves the cover as it is. -/
theorem cons {cover : Cover} {c : Char} {text : List Char} (hnext : cover.next c = cover)
    (hinert : Inert (cover, c)) (h : cover.Harmless text) : cover.Harmless (c :: text) where
  closes := by
    rw [run_cons, hnext]
    exact h.closes
  inert := by
    rw [scan, hnext]
    exact List.forall_mem_cons.mpr ⟨hinert, h.inert⟩

/-- A part with its quotes. -/
theorem enclosed {inside : Cover} {quote : Char} {part : List Char} (hopen : bare.next quote = inside)
    (hclose : inside.next quote = bare) (hbare : Inert (bare, quote)) (hinside : Inert (inside, quote))
    (h : inside.Harmless part) : bare.Harmless (quote :: part ++ [quote]) where
  closes := by
    rw [List.cons_append, run_cons, hopen, run_append, h.closes]
    exact hclose
  inert := by
    rw [List.cons_append, scan, hopen, scan_append, h.closes]
    exact List.forall_mem_cons.mpr
      ⟨hbare, List.forall_mem_append.mpr ⟨h.inert, List.forall_mem_singleton.mpr hinside⟩⟩

theorem single {part : List Char} (h : '\'' ∉ part) : Cover.single.Harmless part := by
  induction part with
  | nil => exact nil _
  | cons c part ih =>
    rw [List.mem_cons, not_or] at h
    exact cons (if_neg (Ne.symm h.1)) trivial (ih h.2)

/-- In double quotes a character is written as it is or after a backslash. -/
theorem quoteDouble {c : Char} (h : allowsDouble c = true) :
    Cover.double.Harmless (Word.quoteDouble c) := by
  unfold Word.quoteDouble
  split_ifs with hc
  · have hinert : ∀ met ∈ [(Cover.double, '\\'), (doubleEscaped, c)], Inert met :=
      List.forall_mem_cons.mpr ⟨rfl, List.forall_mem_singleton.mpr hc⟩
    exact ⟨rfl, hinert⟩
  · rw [not_or] at hc
    have hnext : Cover.double.next c = Cover.double := by rw [next, if_neg hc.1, if_neg hc.2]
    exact cons hnext h (nil _)

theorem double {part : List Char} (h : ∀ c ∈ part, allowsDouble c = true) :
    Cover.double.Harmless (part.flatMap Word.quoteDouble) := by
  induction part with
  | nil => exact nil _
  | cons c part ih =>
    rw [List.flatMap_cons]
    exact (quoteDouble (h c List.mem_cons_self)).append (ih fun d hd => h d (List.mem_cons_of_mem _ hd))

theorem of_spells {text written : List Char} (h : Spells text written) : bare.Harmless written := by
  induction h with
  | nil => exact nil _
  | plain hplain _ ih => exact cons (next_of_allowsPlain hplain) (Or.inl hplain) ih
  | single hsingle _ ih =>
    exact (enclosed rfl rfl (Or.inr (Or.inl rfl)) trivial (single hsingle)).append ih
  | double hdouble _ ih =>
    exact (enclosed rfl rfl (Or.inr (Or.inr rfl)) rfl (double hdouble)).append ih

end Harmless

theorem not_mem_of_allowsDouble {c : Char} (h : allowsDouble c = true) : c ∉ active double := by
  have hactive : (active double).all (fun c => !allowsDouble c) = true := by decide
  intro hc
  simpa [h] using List.all_eq_true.mp hactive c hc

theorem not_mem_of_allowsPlain {c : Char} (h : allowsPlain c = true ∨ c = '\'' ∨ c = '"') :
    c ∉ active bare := by
  have hactive : (active bare).all (fun c => !(allowsPlain c || c == '\'' || c == '"')) = true := by
    decide
  intro hc
  have hfree := List.all_eq_true.mp hactive c hc
  rcases h with h | rfl | rfl
  · simp [h] at hfree
  · cases hfree
  · cases hfree

/-- A shell acts on no character of a spelled word. -/
theorem actsOn_of_inert {cover : Cover} {c : Char} (h : Inert (cover, c)) : cover.actsOn c = false := by
  rw [actsOn, List.contains_eq_mem, decide_eq_false_iff_not]
  cases cover with
  | bare => exact not_mem_of_allowsPlain h
  | escaped => exact h.elim
  | single => exact List.not_mem_nil
  | double => exact not_mem_of_allowsDouble h
  | doubleEscaped => exact List.not_mem_nil

/-- No space in a spelled word is bare. -/
theorem not_inert_space : ¬ Inert (bare, ' ') := by
  rintro (h | h | h) <;> cases h

/-! ## Words -/

/-- Texts that nothing covers at their end are scanned each from the start, and each space between them
is bare. -/
theorem scan_intercalate {words : List (List Char)} (h : ∀ word ∈ words, bare.run word = bare) :
    bare.run ([' '].intercalate words) = bare ∧
      bare.scan ([' '].intercalate words) = [(bare, ' ')].intercalate (words.map bare.scan) := by
  induction words with
  | nil => exact ⟨rfl, rfl⟩
  | cons word words ih =>
    obtain ⟨hword, hwords⟩ := List.forall_mem_cons.mp h
    cases words with
    | nil =>
      rw [List.map_singleton, List.intercalate_singleton, List.intercalate_singleton]
      exact ⟨hword, rfl⟩
    | cons next words =>
      obtain ⟨hrun, hscan⟩ := ih hwords
      rw [List.map_cons] at hscan ⊢
      rw [List.map_cons, List.intercalate_cons_cons, List.intercalate_cons_cons, run_append, run_append,
        hword, scan_append, scan_append, run_append, hword, ← hscan]
      exact ⟨hrun, rfl⟩

theorem eq_or_mem_of_mem_intercalate {α : Type} {x sep : α} {lists : List (List α)}
    (h : x ∈ [sep].intercalate lists) : x = sep ∨ ∃ list ∈ lists, x ∈ list := by
  induction lists with
  | nil => cases h
  | cons list lists ih =>
    cases lists with
    | nil => exact Or.inr ⟨list, List.mem_singleton_self list, by simpa using h⟩
    | cons next lists =>
      rw [List.intercalate_cons_cons, List.append_assoc, List.mem_append, List.mem_append,
        List.mem_singleton] at h
      rcases h with hlist | hsep | hrest
      · exact Or.inr ⟨list, List.mem_cons_self, hlist⟩
      · exact Or.inl hsep
      · exact (ih hrest).imp_right fun ⟨found, hfound, hx⟩ => ⟨found, List.mem_cons_of_mem _ hfound, hx⟩

section

variable (words : List String)

/-- The scan of each word as it is quoted. -/
def quotedScans : List (List (Cover × Char)) := words.map fun word => bare.scan (quote word.toList)

theorem scan_quoted : bare.run (quoted words).toList = bare ∧
    bare.scan (quoted words).toList = [(bare, ' ')].intercalate (quotedScans words) := by
  have hcloses : ∀ written ∈ (words.map String.toList).map quote, bare.run written = bare := by
    intro written hwritten
    obtain ⟨word, -, rfl⟩ := List.mem_map.mp hwritten
    exact (Harmless.of_spells (spells_quote word)).closes
  have hscan := scan_intercalate hcloses
  rw [List.map_map, List.map_map] at hscan
  rw [quoted, String.toList_ofList, List.map_map]
  exact hscan

theorem inert_of_mem_quotedScans {piece : List (Cover × Char)} (hpiece : piece ∈ quotedScans words) :
    ∀ met ∈ piece, Inert met := by
  obtain ⟨word, -, rfl⟩ := List.mem_map.mp hpiece
  exact (Harmless.of_spells (spells_quote word.toList)).inert

/-- A character of quoted words is inert or a space between two of them. -/
theorem inert_or_space {met : Cover × Char} (h : met ∈ bare.scan (quoted words).toList) :
    Inert met ∨ met = (bare, ' ') := by
  rw [(scan_quoted words).2] at h
  rcases eq_or_mem_of_mem_intercalate h with hspace | ⟨piece, hpiece, hmet⟩
  · exact Or.inr hspace
  · exact Or.inl (inert_of_mem_quotedScans words hpiece met hmet)

/-- The bare spaces are those between the words. -/
theorem splitOn_scan_quoted (hne : words ≠ []) :
    (bare.scan (quoted words).toList).splitOn (bare, ' ') = quotedScans words := by
  rw [(scan_quoted words).2]
  refine List.splitOn_intercalate _ (fun piece hpiece hspace => ?_) (by simpa [quotedScans] using hne)
  exact not_inert_space (inert_of_mem_quotedScans words hpiece _ hspace)

theorem nil_not_mem_quotedScans : [] ∉ quotedScans words := by
  intro hnil
  obtain ⟨word, -, hword⟩ := List.mem_map.mp hnil
  have hquote := congrArg (List.map Prod.snd) hword
  rw [map_snd_scan] at hquote
  exact quote_ne_nil _ hquote

theorem spells_quotedScans :
    List.Forall₂ Spells (words.map String.toList)
      ((quotedScans words).map fun piece => piece.map Prod.snd) := by
  rw [quotedScans, List.map_map, List.forall₂_map_left_iff, List.forall₂_map_right_iff,
    List.forall₂_same]
  intro word _
  rw [Function.comp_apply, map_snd_scan]
  exact spells_quote word.toList

end

end Cover

end Runbook.Word
