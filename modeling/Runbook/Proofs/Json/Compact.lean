import Runbook.Proofs.Json.RoundTrip

/-!
# JSON on one line

* `isLiteral_toString`: a whole number is written as the literal of a number.
* `read?_compact`: what `compact` writes spells the value without blanks, and it is read as it was.
* `newline_not_mem_compact`: it holds no line feed, as none is left in strings and in numbers.
-/

namespace Runbook.Json

/-! ## Whole numbers -/

/-- Only zero has a zero for its first digit. -/
theorem head?_toDigits {n : Nat} (h : 0 < n) : (Nat.toDigits 10 n).head? ≠ some '0' := by
  induction n using Nat.strongRecOn with
  | ind n ih =>
    rw [Nat.toDigits_eq_if (by decide)]
    split_ifs with hsmall
    · have hdigit : n.digitChar ≠ '0' := mt Nat.digitChar_eq_zero.mp (Nat.ne_of_gt h)
      simpa using hdigit
    · have hhead := ih (n / 10) (by omega) (by omega)
      rwa [List.head?_append_of_ne_nil _ Nat.toDigits_ne_nil]

theorem whole_toDigits (n : Nat) : Whole (Nat.toDigits 10 n) := by
  rcases Nat.eq_zero_or_pos n with rfl | hpos
  · exact .zero
  · have hdigit : ∀ c ∈ Nat.toDigits 10 n, c.isDigit = true := fun c hc =>
      Nat.isDigit_of_mem_toDigits (by decide) (by decide) hc
    have hhead := head?_toDigits hpos
    cases hdigits : Nat.toDigits 10 n with
    | nil => exact absurd hdigits Nat.toDigits_ne_nil
    | cons c more =>
      rw [hdigits] at hdigit hhead
      exact .digits (fun hzero => hhead (congrArg some hzero)) ⟨List.cons_ne_nil c more, hdigit⟩

theorem numeral_toDigits {sign : List Char} (hsign : sign = [] ∨ sign = ['-']) (n : Nat) :
    Numeral (sign ++ Nat.toDigits 10 n) := by
  have hnumeral := Numeral.mk hsign (whole_toDigits n) .none .none
  rwa [List.append_nil, List.append_nil] at hnumeral

/-- **A whole number is written as the literal of a number.** -/
theorem isLiteral_toString (n : Int) : IsLiteral (toString n).toList := by
  change IsLiteral n.repr.toList
  rw [isLiteral_iff, Int.repr_eq_if]
  split_ifs
  · rw [Nat.toList_repr]
    exact numeral_toDigits (.inl rfl) _
  · rw [String.toList_append, Nat.toList_repr]
    exact numeral_toDigits (.inr rfl) _

/-! ## No line feed -/

theorem newline_not_mem_digits {digits : List Char} (h : Digits digits) : '\n' ∉ digits := by
  intro hmem
  cases h.2 _ hmem

theorem newline_not_mem_of_isLiteral {literal : List Char} (h : IsLiteral literal) :
    '\n' ∉ literal := by
  obtain ⟨hsign, hwhole, hfraction, hexponent⟩ := isLiteral_iff.mp h
  simp only [List.mem_append, not_or]
  refine ⟨⟨⟨?_, ?_⟩, ?_⟩, ?_⟩
  · rcases hsign with rfl | rfl <;> decide
  · cases hwhole with
    | zero => decide
    | digits _ hdigits => exact newline_not_mem_digits hdigits
  · cases hfraction with
    | none => exact List.not_mem_nil
    | digits hdigits => exact List.not_mem_cons_of_ne_of_not_mem (by decide) (newline_not_mem_digits hdigits)
  · cases hexponent with
    | none => exact List.not_mem_nil
    | digits hmark hsign hdigits =>
      rw [List.mem_cons, List.mem_append, not_or, not_or]
      refine ⟨?_, ?_, newline_not_mem_digits hdigits⟩
      · rcases hmark with rfl | rfl <;> decide
      · rcases hsign with rfl | rfl | rfl <;> decide

theorem newline_not_mem_escape (c : Char) : '\n' ∉ escape c := by
  have hdigit : ∀ n, hexDigit n ≠ '\n' := by
    have hall : ∀ n < 16, Nat.digitChar n ≠ '\n' := by decide
    exact fun n => hall _ (Nat.mod_lt n (by decide))
  unfold escape
  split
  iterate 7 decide
  rename_i hline _ _
  split_ifs
  · simp [(hdigit _).symm]
  · simpa [eq_comm] using hline

theorem newline_not_mem_quote (text : Option String) : '\n' ∉ quote text := by
  cases text with
  | none => decide
  | some text =>
    rw [quote_some]
    simp only [List.cons_append, List.mem_cons, List.mem_append, List.mem_flatMap, List.not_mem_nil,
      or_false, not_or, not_exists, not_and]
    exact ⟨by decide, fun c _ => newline_not_mem_escape c, by decide⟩

theorem newline_not_mem_compactItems {items : List Json}
    (h : ∀ item ∈ items, '\n' ∉ compact item) : '\n' ∉ compactItems items := by
  induction items with
  | nil => exact List.not_mem_nil
  | cons item items ih =>
    obtain ⟨hitem, hitems⟩ := List.forall_mem_cons.mp h
    cases items with
    | nil => exact hitem
    | cons next items =>
      rw [compactItems, List.mem_append, List.mem_cons, not_or, not_or]
      · exact ⟨hitem, by decide, ih hitems⟩
      · exact List.cons_ne_nil next items

theorem newline_not_mem_compactMembers {members : List (Option String × Json)}
    (h : ∀ member ∈ members, '\n' ∉ compact member.2) : '\n' ∉ compactMembers members := by
  induction members with
  | nil => exact List.not_mem_nil
  | cons member members ih =>
    obtain ⟨hvalue, hmembers⟩ := List.forall_mem_cons.mp h
    have hmember : '\n' ∉ quote member.1 ++ ':' :: compact member.2 := by
      rw [List.mem_append, List.mem_cons, not_or, not_or]
      exact ⟨newline_not_mem_quote member.1, by decide, hvalue⟩
    cases members with
    | nil => exact hmember
    | cons next members =>
      rw [compactMembers, List.mem_append, List.mem_cons, not_or, not_or]
      · exact ⟨hmember, by decide, ih hmembers⟩
      · exact List.cons_ne_nil next members

/-- **On one line** there is no line feed. -/
theorem newline_not_mem_compact {value : Json} (h : Sound value) : '\n' ∉ compact value := by
  induction h with
  | null => decide
  | bool value => cases value <;> decide
  | number h => exact newline_not_mem_of_isLiteral h
  | string text => exact newline_not_mem_quote text
  | array h ih =>
    rw [compact, List.mem_append, List.mem_cons, not_or, not_or]
    exact ⟨⟨by decide, newline_not_mem_compactItems ih⟩, by decide⟩
  | object h ih =>
    rw [compact, List.mem_append, List.mem_cons, not_or, not_or]
    exact ⟨⟨by decide, newline_not_mem_compactMembers ih⟩, by decide⟩

/-! ## Reading -/

theorem spells_compactItems {items : List Json} (h : ∀ item ∈ items, Spells item (compact item))
    (hne : items ≠ []) : SpellsItems items (compactItems items) := by
  have hpadded : ∀ {item text}, Spells item text → IsText item text := fun hitem => by
    have htext := IsText.padded gap_nil hitem gap_nil
    rwa [List.append_nil] at htext
  induction items with
  | nil => exact absurd rfl hne
  | cons item items ih =>
    obtain ⟨hitem, hitems⟩ := List.forall_mem_cons.mp h
    cases items with
    | nil => exact .last (hpadded hitem)
    | cons next items => exact .cons (hpadded hitem) (ih hitems (List.cons_ne_nil next items))

theorem spells_compactMembers {members : List (Option String × Json)}
    (h : ∀ member ∈ members, Spells member.2 (compact member.2)) (hne : members ≠ []) :
    SpellsMembers members (compactMembers members) := by
  have hmember : ∀ name {value text}, Spells value text →
      SpellsMember (name, value) (quote name ++ ':' :: text) := by
    intro name value text hvalue
    have hspelled := SpellsMember.named gap_nil (quotation_quote name) gap_nil
      (.padded gap_nil hvalue gap_nil)
    rwa [List.append_nil, List.append_nil] at hspelled
  induction members with
  | nil => exact absurd rfl hne
  | cons member members ih =>
    obtain ⟨hvalue, hmembers⟩ := List.forall_mem_cons.mp h
    obtain ⟨name, value⟩ := member
    cases members with
    | nil => exact .last (hmember name hvalue)
    | cons next members =>
      exact .cons (hmember name hvalue) (ih hmembers (List.cons_ne_nil next members))

theorem spells_compact {value : Json} (h : Sound value) : Spells value (compact value) := by
  induction h with
  | null => exact .null
  | bool value => cases value; exacts [.no, .yes]
  | number h => exact .number (isLiteral_iff.mp h)
  | string text => exact .string (quotation_quote text)
  | @array items _ ih =>
    cases items with
    | nil => exact .noItems gap_nil
    | cons item items => exact .array (spells_compactItems ih (List.cons_ne_nil item items))
  | @object members _ ih =>
    cases members with
    | nil => exact .noMembers gap_nil
    | cons member members => exact .object (spells_compactMembers ih (List.cons_ne_nil member members))

theorem isText_compact {value : Json} (h : Sound value) : IsText value (compact value) := by
  have htext := IsText.padded gap_nil (spells_compact h) gap_nil
  rwa [List.append_nil] at htext

/-- **What is written on one line is read back.** -/
theorem read?_compact {value : Json} (h : Sound value) : read? (compact value) = some value :=
  read?_isText (isText_compact h)

end Runbook.Json
