import Runbook.Proofs.Json.Grammar

/-!
# Reading JSON that was written

* `Sound` values are those whose numbers are written as numbers.
* `spells_prettyAt` and `read?_pretty`: what `pretty` writes spells the value, and it is read as it was.
-/

namespace Runbook.Json

/-- The literals of all numbers are literals of numbers. -/
inductive Sound : Json → Prop
  | null : Sound .null
  | bool (value : Bool) : Sound (.bool value)
  | number {literal : String} (h : IsLiteral literal.toList) : Sound (.number literal)
  | string (text : Option String) : Sound (.string text)
  | array {items : List Json} (h : ∀ item ∈ items, Sound item) : Sound (.array items)
  | object {members : List (Option String × Json)} (h : ∀ member ∈ members, Sound member.2) :
    Sound (.object members)

theorem gap_newline (depth : Nat) : Gap (newline depth) := by
  intro c hc
  rcases List.mem_cons.mp hc with rfl | hc
  · rfl
  · rw [List.eq_of_mem_replicate hc]
    rfl

theorem spells_prettyItems {depth : Nat} {items : List Json} {gap : List Char} (hgap : Gap gap)
    (h : ∀ item ∈ items, Spells item (prettyAt depth item)) (hne : items ≠ []) :
    SpellsItems items (prettyItems depth items ++ gap) := by
  induction items with
  | nil => exact absurd rfl hne
  | cons item items ih =>
    obtain ⟨hitem, hitems⟩ := List.forall_mem_cons.mp h
    cases items with
    | nil => exact .last (.padded (gap_newline depth) hitem hgap)
    | cons next items =>
      have hspelled := SpellsItems.cons (.padded (gap_newline depth) hitem gap_nil)
        (ih hitems (List.cons_ne_nil next items))
      rwa [List.append_nil, ← List.cons_append, ← List.append_assoc] at hspelled

theorem spells_prettyMembers {depth : Nat} {members : List (Option String × Json)} {gap : List Char}
    (hgap : Gap gap) (h : ∀ member ∈ members, Spells member.2 (prettyAt depth member.2))
    (hne : members ≠ []) : SpellsMembers members (prettyMembers depth members ++ gap) := by
  have hspace : Gap [' '] := fun c hc => List.mem_singleton.mp hc ▸ rfl
  have hmember : ∀ name {value text gap}, Spells value text → Gap gap →
      SpellsMember (name, value) (newline depth ++ quote name ++ ':' :: ' ' :: (text ++ gap)) := by
    intro name value text gap hvalue hgap
    have hspelled := SpellsMember.named (gap_newline depth) (quotation_quote name) gap_nil
      (.padded hspace hvalue hgap)
    rwa [List.append_nil, List.append_assoc [' '], List.singleton_append] at hspelled
  induction members with
  | nil => exact absurd rfl hne
  | cons member members ih =>
    obtain ⟨hvalue, hmembers⟩ := List.forall_mem_cons.mp h
    obtain ⟨name, value⟩ := member
    cases members with
    | nil =>
      have hspelled := SpellsMembers.last (hmember name hvalue hgap)
      rwa [← List.cons_append, ← List.cons_append, ← List.append_assoc] at hspelled
    | cons next members =>
      have hspelled := SpellsMembers.cons (hmember name hvalue gap_nil)
        (ih hmembers (List.cons_ne_nil next members))
      rwa [List.append_nil, ← List.cons_append, ← List.append_assoc] at hspelled

theorem spells_prettyAt {value : Json} (h : Sound value) (depth : Nat) :
    Spells value (prettyAt depth value) := by
  induction h generalizing depth with
  | null => exact .null
  | bool value => cases value; exacts [.no, .yes]
  | number h => exact .number (isLiteral_iff.mp h)
  | string text => exact .string (quotation_quote text)
  | @array items _ ih =>
    cases items with
    | nil => exact .noItems gap_nil
    | cons item items =>
      exact .array (spells_prettyItems (gap_newline depth) (fun other hother => ih other hother _)
        (List.cons_ne_nil item items))
  | @object members _ ih =>
    cases members with
    | nil => exact .noMembers gap_nil
    | cons member members =>
      exact .object (spells_prettyMembers (gap_newline depth) (fun other hother => ih other hother _)
        (List.cons_ne_nil member members))

theorem isText_pretty {value : Json} (h : Sound value) {gap : List Char} (hgap : Gap gap) :
    IsText value (pretty value ++ gap) :=
  .padded gap_nil (spells_prettyAt h 0) hgap

/-- **What is written is read back.** -/
theorem read?_pretty {value : Json} (h : Sound value) : read? (pretty value) = some value := by
  have htext := isText_pretty h gap_nil
  rw [List.append_nil] at htext
  exact read?_isText htext

end Runbook.Json
