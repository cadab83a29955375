import Mathlib.Tactic.SplitIfs
import Runbook.Text.Utf8

/-!
# Texts and their bytes

Strict reading accepts exactly what writing produces.

* `Form` gives the bytes of a character as numbers. `encodeChar` writes forms (`encodeChar_iff`), and
  `sequence` reads forms (`sequence_of_form`) and nothing else (`form_of_sequence`): shorter and longer
  spellings, surrogates and what lies above the last code point are in nobody's form.
* `sequence_eq_char_iff`: a character is read at the start of bytes exactly where it is written.
* `text?_eq_ok_iff`: bytes are a text exactly when they are the bytes of that text.
-/

namespace Runbook

namespace Utf8

/-! ## Bytes and code points as numbers -/

theorem toNat_toUInt8 {n : Nat} (h : n < 256) : n.toUInt8.toNat = n := by
  rw [Nat.toUInt8, UInt8.toNat_ofNat']
  exact Nat.mod_eq_of_lt h

theorem eq_toUInt8 {b : UInt8} {n : Nat} (h : b.toNat = n) : n.toUInt8 = b := by
  rw [← h, Nat.toUInt8, UInt8.ofNat_toNat]

theorem toNat_ofNat {n : Nat} (h : n.isValidChar) : (Char.ofNat n).toNat = n := by
  rw [Char.ofNat, dif_pos h]
  rfl

theorem ofNat_eq {c : Char} {n : Nat} (h : n = c.toNat) : Char.ofNat n = c := by
  rw [h, Char.ofNat_toNat]

theorem continues_iff {b : UInt8} : continues b = true ↔ 0x80 ≤ b.toNat ∧ b.toNat < 0xC0 := by
  simp [continues]

theorem secondOfThree_iff {lead second : UInt8} :
    secondOfThree lead second = true ↔ (0x80 ≤ second.toNat ∧ second.toNat < 0xC0) ∧
      (lead.toNat = 0xE0 → 0xA0 ≤ second.toNat) ∧ (lead.toNat = 0xED → second.toNat < 0xA0) := by
  simp only [secondOfThree, Bool.and_eq_true, continues_iff, Bool.or_eq_true, bne_iff_ne,
    decide_eq_true_eq]
  omega

theorem secondOfFour_iff {lead second : UInt8} :
    secondOfFour lead second = true ↔ (0x80 ≤ second.toNat ∧ second.toNat < 0xC0) ∧
      (lead.toNat = 0xF0 → 0x90 ≤ second.toNat) ∧ (lead.toNat = 0xF4 → second.toNat < 0x90) := by
  simp only [secondOfFour, Bool.and_eq_true, continues_iff, Bool.or_eq_true, bne_iff_ne,
    decide_eq_true_eq]
  omega

/-! ## The form of a character -/

/-- The first byte and the other bytes of a character, as numbers. -/
inductive Form (c : Char) : UInt8 → Bytes → Prop
  | one {lead : UInt8} (hrange : c.toNat < 0x80) (hlead : lead.toNat = c.toNat) : Form c lead []
  | two {lead b : UInt8} (hrange : 0x80 ≤ c.toNat ∧ c.toNat < 0x800)
    (hlead : lead.toNat = 0xC0 + c.toNat / 0x40) (hb : b.toNat = 0x80 + c.toNat % 0x40) :
    Form c lead [b]
  | three {lead b d : UInt8} (hrange : 0x800 ≤ c.toNat ∧ c.toNat < 0x10000)
    (hlead : lead.toNat = 0xE0 + c.toNat / 0x1000) (hb : b.toNat = 0x80 + c.toNat / 0x40 % 0x40)
    (hd : d.toNat = 0x80 + c.toNat % 0x40) : Form c lead [b, d]
  | four {lead b d e : UInt8} (hrange : 0x10000 ≤ c.toNat)
    (hlead : lead.toNat = 0xF0 + c.toNat / 0x40000) (hb : b.toNat = 0x80 + c.toNat / 0x1000 % 0x40)
    (hd : d.toNat = 0x80 + c.toNat / 0x40 % 0x40) (he : e.toNat = 0x80 + c.toNat % 0x40) :
    Form c lead [b, d, e]

theorem toNat_lt (c : Char) : c.toNat < 0xD800 ∨ 0xDFFF < c.toNat ∧ c.toNat < 0x110000 := c.valid

theorem exists_form (c : Char) : ∃ lead tail, encodeChar c = lead :: tail ∧ Form c lead tail := by
  have hvalid := toNat_lt c
  unfold encodeChar
  dsimp only
  split_ifs with hone htwo hthree
  · exact ⟨_, _, rfl, .one hone (toNat_toUInt8 (by omega))⟩
  · exact ⟨_, _, rfl, .two (by omega) (toNat_toUInt8 (by omega)) (toNat_toUInt8 (by omega))⟩
  · exact ⟨_, _, rfl, .three (by omega) (toNat_toUInt8 (by omega)) (toNat_toUInt8 (by omega))
      (toNat_toUInt8 (by omega))⟩
  · exact ⟨_, _, rfl, .four (by omega) (toNat_toUInt8 (by omega)) (toNat_toUInt8 (by omega))
      (toNat_toUInt8 (by omega)) (toNat_toUInt8 (by omega))⟩

/-- A character of one byte is found in no other character. -/
theorem eq_of_mem_encodeChar {c d : Char} {byte : UInt8} (hmem : byte ∈ encodeChar c)
    (hbyte : byte.toNat = d.toNat) (hd : d.toNat < 0x80) : c = d := by
  obtain ⟨lead, tail, hbytes, hform⟩ := exists_form c
  rw [hbytes] at hmem
  have hcode : c.toNat = d.toNat := by
    cases hform with
    | one hrange hlead =>
      obtain rfl := List.mem_singleton.mp hmem
      omega
    | two hrange hlead hb =>
      simp only [List.mem_cons, List.not_mem_nil, or_false] at hmem
      rcases hmem with rfl | rfl <;> omega
    | three hrange hlead hb hc =>
      simp only [List.mem_cons, List.not_mem_nil, or_false] at hmem
      rcases hmem with rfl | rfl | rfl <;> omega
    | four hrange hlead hb hc hd' =>
      simp only [List.mem_cons, List.not_mem_nil, or_false] at hmem
      rcases hmem with rfl | rfl | rfl | rfl <;> omega
  rw [← Char.ofNat_toNat c, hcode, Char.ofNat_toNat]

theorem encodeChar_of_form {c : Char} {lead : UInt8} {tail : Bytes} (h : Form c lead tail) :
    encodeChar c = lead :: tail := by
  unfold encodeChar
  dsimp only
  cases h with
  | one hrange hlead => rw [if_pos hrange, eq_toUInt8 hlead]
  | two hrange hlead hb =>
    rw [if_neg (by omega), if_pos (by omega), eq_toUInt8 hlead, eq_toUInt8 hb]
  | three hrange hlead hb hd =>
    rw [if_neg (by omega), if_neg (by omega), if_pos (by omega), eq_toUInt8 hlead, eq_toUInt8 hb,
      eq_toUInt8 hd]
  | four hrange hlead hb hd he =>
    rw [if_neg (by omega), if_neg (by omega), if_neg (by omega), eq_toUInt8 hlead, eq_toUInt8 hb,
      eq_toUInt8 hd, eq_toUInt8 he]

theorem encodeChar_iff {c : Char} {lead : UInt8} {tail : Bytes} :
    encodeChar c = lead :: tail ↔ Form c lead tail := by
  refine ⟨fun h => ?_, encodeChar_of_form⟩
  obtain ⟨first, others, hform, hfirst⟩ := exists_form c
  obtain ⟨rfl, rfl⟩ := List.cons.inj (hform.symm.trans h)
  exact hfirst

/-- A form is read as its character, whatever follows. -/
theorem sequence_of_form {c : Char} {lead : UInt8} {tail : Bytes} (h : Form c lead tail) (rest : Bytes) :
    sequence lead (tail ++ rest) = .char c (tail.length + 1) := by
  have hvalid := toNat_lt c
  unfold sequence
  cases h with
  | one hrange hlead =>
    dsimp only
    rw [if_pos (by omega), ofNat_eq hlead]
    rfl
  | two hrange hlead hb =>
    dsimp only [List.cons_append]
    rw [if_neg (by omega), if_neg (by omega), if_pos (by omega),
      if_pos (continues_iff.mpr (by omega)), payload, @ofNat_eq c _ (by omega)]
    rfl
  | three hrange hlead hb hd =>
    dsimp only [List.cons_append]
    rw [if_neg (by omega), if_neg (by omega), if_neg (by omega), if_pos (by omega),
      secondOfThree_iff.mpr (by omega), if_neg (by decide), if_pos (continues_iff.mpr (by omega)),
      payload, payload, @ofNat_eq c _ (by omega)]
    rfl
  | four hrange hlead hb hd he =>
    dsimp only [List.cons_append]
    rw [if_neg (by omega), if_neg (by omega), if_neg (by omega), if_neg (by omega), if_pos (by omega),
      secondOfFour_iff.mpr (by omega), if_neg (by decide), continues_iff.mpr (by omega),
      if_neg (by decide), if_pos (continues_iff.mpr (by omega)), payload, payload, payload,
      @ofNat_eq c _ (by omega)]
    rfl

/-- What is read as a character is a form of it. -/
theorem form_of_sequence {lead : UInt8} {rest : Bytes} {c : Char} {n : Nat}
    (h : sequence lead rest = .char c n) :
    ∃ tail after, Form c lead tail ∧ rest = tail ++ after ∧ n = tail.length + 1 := by
  have hbound : lead.toNat < 256 := lead.toNat_lt
  unfold sequence at h
  dsimp only at h
  split_ifs at h with hone hlow htwo hthree hfour
  · obtain ⟨rfl, rfl⟩ := Sequence.char.inj h
    have hnat := toNat_ofNat (n := lead.toNat) (Or.inl (by omega))
    exact ⟨[], rest, .one (by omega) hnat.symm, rfl, rfl⟩
  · split at h
    · cases h
    · rename_i b after
      split_ifs at h with hb
      rw [continues_iff] at hb
      obtain ⟨rfl, rfl⟩ := Sequence.char.inj h
      unfold payload
      have hnat := toNat_ofNat (n := lead.toNat % 0x20 * 0x40 + b.toNat % 0x40) (Or.inl (by omega))
      exact ⟨[b], after, .two (by omega) (by omega) (by omega), rfl, rfl⟩
  · split at h
    · cases h
    · rename_i b after
      split_ifs at h with hb
      rw [Bool.not_eq_true', Bool.not_eq_false, secondOfThree_iff] at hb
      split at h
      · cases h
      · rename_i d after
        split_ifs at h with hd
        rw [continues_iff] at hd
        obtain ⟨rfl, rfl⟩ := Sequence.char.inj h
        unfold payload
        have hnat := toNat_ofNat (n := lead.toNat % 0x10 * 0x1000 + b.toNat % 0x40 * 0x40 +
          d.toNat % 0x40) (by unfold Nat.isValidChar; omega)
        exact ⟨[b, d], after, .three (by omega) (by omega) (by omega) (by omega), rfl, rfl⟩
  · split at h
    · cases h
    · rename_i b after
      split_ifs at h with hb
      rw [Bool.not_eq_true', Bool.not_eq_false, secondOfFour_iff] at hb
      split at h
      · cases h
      · rename_i d after
        split_ifs at h with hd
        rw [Bool.not_eq_true', Bool.not_eq_false, continues_iff] at hd
        split at h
        · cases h
        · rename_i e after
          split_ifs at h with he
          rw [continues_iff] at he
          obtain ⟨rfl, rfl⟩ := Sequence.char.inj h
          unfold payload
          have hnat := toNat_ofNat (n := lead.toNat % 0x8 * 0x40000 + b.toNat % 0x40 * 0x1000 +
            d.toNat % 0x40 * 0x40 + e.toNat % 0x40) (by unfold Nat.isValidChar; omega)
          exact ⟨[b, d, e], after, .four (by omega) (by omega) (by omega) (by omega) (by omega),
            rfl, rfl⟩

theorem sequence_eq_char_iff {lead : UInt8} {rest : Bytes} {c : Char} {n : Nat} :
    sequence lead rest = .char c n ↔
      ∃ tail after, encodeChar c = lead :: tail ∧ rest = tail ++ after ∧ n = tail.length + 1 := by
  constructor
  · intro h
    obtain ⟨tail, after, hform, hrest, hlength⟩ := form_of_sequence h
    exact ⟨tail, after, encodeChar_iff.mpr hform, hrest, hlength⟩
  · rintro ⟨tail, after, hbytes, rfl, rfl⟩
    exact sequence_of_form (encodeChar_iff.mp hbytes) after

/-! ## Texts -/

theorem decodeFrom_encodeChar (index : Nat) (c : Char) (rest : Bytes) :
    decodeFrom index (encodeChar c ++ rest) =
      (c :: ·) <$> decodeFrom (index + (encodeChar c).length) rest := by
  obtain ⟨lead, tail, hbytes, hform⟩ := exists_form c
  rw [hbytes, List.cons_append, decodeFrom, sequence_of_form hform]
  simp

theorem decodeFrom_encode (index : Nat) (text : List Char) :
    decodeFrom index (encode text) = .ok text := by
  induction text generalizing index with
  | nil => rw [encode, List.flatMap_nil, decodeFrom]
  | cons c text ih =>
    rw [encode, List.flatMap_cons, decodeFrom_encodeChar, ← encode, ih]
    rfl

theorem encode_of_decodeFrom {index : Nat} {bytes : Bytes} {text : List Char}
    (h : decodeFrom index bytes = .ok text) : encode text = bytes := by
  fun_induction decodeFrom index bytes generalizing text with
  | case1 =>
    obtain rfl := Except.ok.inj h
    rfl
  | case2 index lead rest c n hread ih =>
    obtain ⟨tail, after, hform, rfl, rfl⟩ := sequence_eq_char_iff.mp hread
    rw [Nat.add_sub_cancel, List.drop_left] at h ih
    cases hrest : decodeFrom (index + (tail.length + 1)) after with
    | error flaw =>
      rw [hrest] at h
      cases h
    | ok others =>
      rw [hrest] at h
      obtain rfl := Except.ok.inj h
      change encodeChar c ++ encode others = _
      rw [ih hrest, hform, List.cons_append]
  | case3 => cases h
  | case4 => cases h

end Utf8

/-- **Strict reading accepts what writing produces**, and nothing else. -/
theorem text?_eq_ok_iff {bytes : Bytes} {text : String} :
    text? bytes = .ok text ↔ utf8 text = bytes := by
  constructor
  · intro h
    unfold text? at h
    cases hread : Utf8.decode bytes with
    | error flaw =>
      rw [hread] at h
      cases h
    | ok characters =>
      rw [hread] at h
      obtain rfl := Except.ok.inj h
      rw [utf8, String.toList_ofList]
      exact Utf8.encode_of_decodeFrom hread
  · rintro rfl
    rw [text?, utf8, Utf8.decode, Utf8.decodeFrom_encode]
    exact congrArg Except.ok String.ofList_toList

theorem utf8_injective : Function.Injective utf8 := by
  intro a b h
  have htext : text? (utf8 b) = .ok a := text?_eq_ok_iff.mpr h
  rw [text?_eq_ok_iff.mpr rfl] at htext
  exact (Except.ok.inj htext).symm

end Runbook
