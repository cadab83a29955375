import Runbook.Proofs.Text.Utf8

/-!
# Well-formed bytes

Which bytes are those of a text, said of their bits alone.

* `Spells` is the pattern of the bits: a first byte that tells how many bytes follow, and six bits in
  each of these. A number has several spellings, and not every number is that of a character.
* `WellFormed` bytes are pieces, each the shortest spelling of a number that is no surrogate and not
  above the last code point.
* `wellFormed_iff`: just these bytes are written for texts.
-/

namespace Runbook.Utf8

/-- Bytes spell a number. -/
inductive Spells (n : Nat) : Bytes → Prop
  | one {a : UInt8} (ha : a.toNat / 0x80 = 0b0) (hn : n = a.toNat) : Spells n [a]
  | two {a b : UInt8} (ha : a.toNat / 0x20 = 0b110) (hb : b.toNat / 0x40 = 0b10)
    (hn : n = a.toNat % 0x20 * 0x40 + b.toNat % 0x40) : Spells n [a, b]
  | three {a b c : UInt8} (ha : a.toNat / 0x10 = 0b1110) (hb : b.toNat / 0x40 = 0b10)
    (hc : c.toNat / 0x40 = 0b10)
    (hn : n = a.toNat % 0x10 * 0x1000 + b.toNat % 0x40 * 0x40 + c.toNat % 0x40) : Spells n [a, b, c]
  | four {a b c d : UInt8} (ha : a.toNat / 0x8 = 0b11110) (hb : b.toNat / 0x40 = 0b10)
    (hc : c.toNat / 0x40 = 0b10) (hd : d.toNat / 0x40 = 0b10)
    (hn : n = a.toNat % 0x8 * 0x40000 + b.toNat % 0x40 * 0x1000 + c.toNat % 0x40 * 0x40 +
      d.toNat % 0x40) : Spells n [a, b, c, d]

/-- Pieces one after the other, each the shortest spelling of the number of a character. -/
inductive WellFormed : Bytes → Prop
  | nil : WellFormed []
  | cons {n : Nat} {piece rest : Bytes} (hspells : Spells n piece)
    (hshortest : ∀ other, Spells n other → piece.length ≤ other.length)
    (hsurrogate : ¬ (0xD800 ≤ n ∧ n ≤ 0xDFFF)) (hlast : n ≤ 0x10FFFF) (hrest : WellFormed rest) :
    WellFormed (piece ++ rest)

/-! ## Spellings of one number -/

theorem length_encodeChar (c : Char) :
    (encodeChar c).length =
      if c.toNat < 0x80 then 1 else if c.toNat < 0x800 then 2 else if c.toNat < 0x10000 then 3 else 4 := by
  unfold encodeChar
  dsimp only
  split_ifs <;> rfl

/-- Only large numbers are written in many bytes. -/
theorem le_of_le_length {c : Char} {k : Nat} (h : k ≤ (encodeChar c).length) :
    (2 ≤ k → 0x80 ≤ c.toNat) ∧ (3 ≤ k → 0x800 ≤ c.toNat) ∧ (4 ≤ k → 0x10000 ≤ c.toNat) := by
  rw [length_encodeChar] at h
  split_ifs at h <;> omega

/-- Few bytes spell small numbers only. -/
theorem Spells.lt_of_length_le {n k : Nat} {bytes : Bytes} (h : Spells n bytes) (hk : bytes.length ≤ k) :
    0 < k ∧ (k = 1 → n < 0x80) ∧ (k = 2 → n < 0x800) ∧ (k = 3 → n < 0x10000) := by
  cases h with
  | one ha hn =>
    simp only [List.length_cons, List.length_nil] at hk
    omega
  | two ha hb hn =>
    simp only [List.length_cons, List.length_nil] at hk
    omega
  | three ha hb hc hn =>
    simp only [List.length_cons, List.length_nil] at hk
    omega
  | four ha hb hc hd hn =>
    simp only [List.length_cons, List.length_nil] at hk
    omega

theorem spells_encodeChar (c : Char) : Spells c.toNat (encodeChar c) := by
  have hvalid := toNat_lt c
  obtain ⟨lead, tail, hbytes, hform⟩ := exists_form c
  rw [hbytes]
  cases hform with
  | one hrange hlead => exact .one (by omega) (by omega)
  | two hrange hlead hb => exact .two (by omega) (by omega) (by omega)
  | three hrange hlead hb hd => exact .three (by omega) (by omega) (by omega) (by omega)
  | four hrange hlead hb hd he => exact .four (by omega) (by omega) (by omega) (by omega) (by omega)

/-- A character is written in its shortest spelling. -/
theorem length_encodeChar_le {c : Char} {other : Bytes} (h : Spells c.toNat other) :
    (encodeChar c).length ≤ other.length := by
  have hroom := h.lt_of_length_le (Nat.le_refl _)
  rw [length_encodeChar]
  split_ifs <;> omega

/-- There is no other shortest spelling. -/
theorem encodeChar_of_spells {c : Char} {piece : Bytes} (hspells : Spells c.toNat piece)
    (hshortest : ∀ other, Spells c.toNat other → piece.length ≤ other.length) : encodeChar c = piece := by
  have hvalid := toNat_lt c
  obtain ⟨htwo, hthree, hfour⟩ := le_of_le_length (hshortest _ (spells_encodeChar c))
  cases hspells with
  | one ha hn => exact encodeChar_of_form (.one (by omega) hn.symm)
  | two ha hb hn =>
    have hrange := htwo (Nat.le_refl _)
    exact encodeChar_of_form (.two (by omega) (by omega) (by omega))
  | three ha hb hc hn =>
    have hrange := hthree (Nat.le_refl _)
    exact encodeChar_of_form (.three (by omega) (by omega) (by omega) (by omega))
  | four ha hb hc hd hn =>
    have hrange := hfour (Nat.le_refl _)
    exact encodeChar_of_form (.four (by omega) (by omega) (by omega) (by omega) (by omega))

/-! ## Texts -/

/-- **Well-formed bytes are those of the texts.** -/
theorem wellFormed_iff {bytes : Bytes} : WellFormed bytes ↔ ∃ text, encode text = bytes := by
  constructor
  · intro h
    induction h with
    | nil => exact ⟨[], rfl⟩
    | @cons n piece rest hspells hshortest hsurrogate hlast hrest ih =>
      obtain ⟨text, rfl⟩ := ih
      have hnat : (Char.ofNat n).toNat = n := toNat_ofNat (by unfold Nat.isValidChar; omega)
      rw [← hnat] at hspells hshortest
      exact ⟨Char.ofNat n :: text, by
        rw [encode, List.flatMap_cons, encodeChar_of_spells hspells hshortest, ← encode]⟩
  · rintro ⟨text, rfl⟩
    induction text with
    | nil => exact .nil
    | cons c text ih =>
      have hvalid := toNat_lt c
      rw [encode, List.flatMap_cons, ← encode]
      exact .cons (spells_encodeChar c) (fun _ h => length_encodeChar_le h) (by omega) (by omega) ih

end Runbook.Utf8
