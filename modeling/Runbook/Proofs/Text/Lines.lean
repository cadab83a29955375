import Mathlib.Data.List.Basic
import Runbook.Proofs.Text.Utf8

/-!
# Lines of bytes

Bytes that consist of lines, each with a line feed behind it and none inside.

* `Framed.unique`: there is only one way to take such bytes apart.
* `Framed.append`, `framed_flatMap`: lines one behind the other.
* `framed_text`: a text without line feeds makes one line.
-/

namespace Runbook

/-- What stands in front of the first separator, and what stands behind it. -/
theorem append_separator_inj {α : Type} {separator : α} {x y xs ys : List α} (hx : separator ∉ x)
    (hy : separator ∉ y) (h : x ++ separator :: xs = y ++ separator :: ys) : x = y ∧ xs = ys := by
  rcases List.append_eq_append_iff.mp h with ⟨more, rfl, hmore⟩ | ⟨more, rfl, hmore⟩
  · cases more with
    | nil => exact ⟨(List.append_nil x).symm, (List.cons.inj hmore).2⟩
    | cons first more =>
      obtain ⟨rfl, -⟩ := List.cons.inj hmore
      exact absurd (List.mem_append_right _ List.mem_cons_self) hy
  · cases more with
    | nil => exact ⟨List.append_nil y, (List.cons.inj hmore).2.symm⟩
    | cons first more =>
      obtain ⟨rfl, -⟩ := List.cons.inj hmore
      exact absurd (List.mem_append_right _ List.mem_cons_self) hx

/-- The byte behind a line. -/
def lineFeed : UInt8 := 0x0A

/-- The bytes are these lines, each with a line feed behind it, and hold no other line feed. -/
structure Framed (bytes : Bytes) (lines : List Bytes) : Prop where
  whole : bytes = lines.flatMap (· ++ [lineFeed])
  free : ∀ line ∈ lines, lineFeed ∉ line

namespace Framed

theorem nil : Framed [] [] := ⟨rfl, fun _ h => nomatch h⟩

theorem append {a b : Bytes} {x y : List Bytes} (ha : Framed a x) (hb : Framed b y) :
    Framed (a ++ b) (x ++ y) := by
  refine ⟨?_, fun line hline => (List.mem_append.mp hline).elim (ha.free line) (hb.free line)⟩
  rw [List.flatMap_append, ← ha.whole, ← hb.whole]

/-- The lines are read off the bytes. -/
theorem unique {bytes : Bytes} {lines others : List Bytes} (h : Framed bytes lines)
    (hother : Framed bytes others) : lines = others := by
  induction lines generalizing bytes others with
  | nil =>
    cases others with
    | nil => rfl
    | cons other others =>
      have hnil := hother.whole.symm.trans h.whole
      simp at hnil
  | cons line lines ih =>
    cases others with
    | nil =>
      have hnil := h.whole.symm.trans hother.whole
      simp at hnil
    | cons other others =>
      obtain ⟨hline, hlines⟩ := List.forall_mem_cons.mp h.free
      obtain ⟨hfree, hothers⟩ := List.forall_mem_cons.mp hother.free
      have hwhole := h.whole.symm.trans hother.whole
      rw [List.flatMap_cons, List.flatMap_cons, List.append_assoc, List.append_assoc,
        List.singleton_append, List.singleton_append] at hwhole
      obtain ⟨rfl, hrest⟩ := append_separator_inj hline hfree hwhole
      rw [ih ⟨rfl, hlines⟩ ⟨hrest, hothers⟩]

end Framed

theorem framed_flatMap {α : Type} {items : List α} {write : α → Bytes} {lines : α → List Bytes}
    (h : ∀ item ∈ items, Framed (write item) (lines item)) :
    Framed (items.flatMap write) (items.flatMap lines) := by
  induction items with
  | nil => exact .nil
  | cons item items ih =>
    obtain ⟨hitem, hitems⟩ := List.forall_mem_cons.mp h
    rw [List.flatMap_cons, List.flatMap_cons]
    exact hitem.append (ih hitems)

/-! ## Texts -/

theorem utf8_append (a b : String) : utf8 (a ++ b) = utf8 a ++ utf8 b := by
  rw [utf8, String.toList_append, Utf8.encode, List.flatMap_append]
  rfl

theorem utf8_join (texts : List String) : utf8 (String.join texts) = texts.flatMap utf8 := by
  rw [utf8, String.toList_join, Utf8.encode, List.flatMap_assoc]
  rfl

theorem lineFeed_mem_utf8_iff {text : String} : lineFeed ∈ utf8 text ↔ '\n' ∈ text.toList := by
  constructor
  · intro h
    have hencoded : lineFeed ∈ text.toList.flatMap Utf8.encodeChar := h
    obtain ⟨c, hc, hmem⟩ := List.mem_flatMap.mp hencoded
    have hline : c = '\n' := Utf8.eq_of_mem_encodeChar hmem rfl (by decide)
    exact hline ▸ hc
  · intro h
    exact List.mem_flatMap.mpr ⟨'\n', h, by decide⟩

theorem framed_text {text : String} (h : '\n' ∉ text.toList) :
    Framed (utf8 (text ++ "\n")) [utf8 text] := by
  refine ⟨?_, fun line hline => ?_⟩
  · rw [utf8_append, List.flatMap_singleton]
    rfl
  · rw [List.mem_singleton.mp hline, lineFeed_mem_utf8_iff]
    exact h

end Runbook
