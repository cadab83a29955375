import Mathlib.Tactic.SplitIfs
import Runbook.Proofs.Text.WellFormed

/-!
# Bytes that are no text

Where strict reading stops, and how lenient reading goes on.

* `Begins`: bytes with which those of a character begin. What is cut off at the end of the bytes is such a
  beginning (`begins_of_cut`).
* A `Flawed` sequence is, from its second byte on, the longest such beginning that there is at its place:
  one byte more, and no character begins so (`Flawed.not_begins`). It is seen at the byte behind it, and
  no matter what follows that.
* `exists_of_decodeFrom`: strict reading stops behind a text, at a flawed sequence or one that is cut off.
* `decodeLossy_encode_append`: lenient reading takes a text as it is, and reads on behind it.
-/

namespace Runbook.Utf8

/-! ## Beginnings -/

/-- Bytes begin those of a character. -/
def Begins (bytes : Bytes) : Prop := ∃ c, bytes <+: encodeChar c

theorem begins_of_sequence {lead : UInt8} {tail bytes : Bytes} {c : Char} {n : Nat}
    (h : sequence lead tail = .char c n) (hn : n = tail.length + 1) (hbytes : bytes <+: lead :: tail) :
    Begins bytes := by
  obtain ⟨held, after, hform, htail, hlength⟩ := sequence_eq_char_iff.mp h
  have hafter : after = [] := by
    have hall := congrArg List.length htail
    rw [List.length_append] at hall
    exact List.length_eq_zero_iff.mp (by omega)
  rw [hafter, List.append_nil] at htail
  exact ⟨c, by rwa [hform, ← htail]⟩

theorem continues_first : continues 0x80 = true := rfl

theorem begins_two {lead : UInt8} (hlow : 0xC2 ≤ lead.toNat) (hhigh : lead.toNat < 0xE0) :
    Begins [lead] := by
  have hread : ∃ c, sequence lead [0x80] = .char c 2 := by
    unfold sequence
    dsimp only
    rw [if_neg (by omega), if_neg (by omega), if_pos (by omega), if_pos continues_first]
    exact ⟨_, rfl⟩
  exact begins_of_sequence hread.choose_spec rfl ⟨_, rfl⟩

theorem begins_three {lead b : UInt8} (hlow : 0xE0 ≤ lead.toNat) (hhigh : lead.toNat < 0xF0)
    (hb : secondOfThree lead b = true) : Begins [lead, b] := by
  have hread : ∃ c, sequence lead [b, 0x80] = .char c 3 := by
    unfold sequence
    dsimp only
    rw [if_neg (by omega), if_neg (by omega), if_neg (by omega), if_pos (by omega), hb,
      if_neg (by decide), if_pos continues_first]
    exact ⟨_, rfl⟩
  exact begins_of_sequence hread.choose_spec rfl ⟨_, rfl⟩

theorem begins_four {lead b c : UInt8} (hlow : 0xF0 ≤ lead.toNat) (hhigh : lead.toNat < 0xF5)
    (hb : secondOfFour lead b = true) (hc : continues c = true) : Begins [lead, b, c] := by
  have hread : ∃ char, sequence lead [b, c, 0x80] = .char char 4 := by
    unfold sequence
    dsimp only
    rw [if_neg (by omega), if_neg (by omega), if_neg (by omega), if_neg (by omega), if_pos (by omega),
      hb, if_neg (by decide), hc, if_neg (by decide), if_pos continues_first]
    exact ⟨_, rfl⟩
  exact begins_of_sequence hread.choose_spec rfl ⟨_, rfl⟩

theorem exists_secondOfThree (lead : UInt8) : ∃ b, secondOfThree lead b = true := by
  by_cases hlow : lead.toNat = 0xE0
  · exact ⟨0xA0, secondOfThree_iff.mpr ⟨by decide, fun _ => by decide, fun h => by omega⟩⟩
  · exact ⟨0x80, secondOfThree_iff.mpr ⟨by decide, fun h => absurd h hlow, fun _ => by decide⟩⟩

theorem exists_secondOfFour (lead : UInt8) : ∃ b, secondOfFour lead b = true := by
  by_cases hlow : lead.toNat = 0xF0
  · exact ⟨0x90, secondOfFour_iff.mpr ⟨by decide, fun _ => by decide, fun h => by omega⟩⟩
  · exact ⟨0x80, secondOfFour_iff.mpr ⟨by decide, fun h => absurd h hlow, fun _ => by decide⟩⟩

theorem Begins.of_isPrefix {bytes others : Bytes} (h : Begins others) (hbytes : bytes <+: others) :
    Begins bytes := by
  obtain ⟨c, hc⟩ := h
  exact ⟨c, hbytes.trans hc⟩

theorem begins_of_cut {lead : UInt8} {rest : Bytes} (h : sequence lead rest = .cut) :
    Begins (lead :: rest) := by
  unfold sequence at h
  dsimp only at h
  split_ifs at h with hone hlow htwo hthree hfour
  · split at h
    · exact begins_two (by omega) htwo
    · split_ifs at h
  · split at h
    · obtain ⟨b, hb⟩ := exists_secondOfThree lead
      exact (begins_three (by omega) hthree hb).of_isPrefix ⟨_, rfl⟩
    · rename_i b after
      split_ifs at h with hb
      split at h
      · exact begins_three (by omega) hthree (by simpa using hb)
      · split_ifs at h
  · split at h
    · obtain ⟨b, hb⟩ := exists_secondOfFour lead
      exact (begins_four (by omega) hfour hb continues_first).of_isPrefix ⟨_, rfl⟩
    · rename_i b after
      split_ifs at h with hb
      split at h
      · exact (begins_four (by omega) hfour (by simpa using hb) continues_first).of_isPrefix ⟨_, rfl⟩
      · rename_i c after
        split_ifs at h with hc
        split at h
        · exact begins_four (by omega) hfour (by simpa using hb) (by simpa using hc)
        · split_ifs at h

/-! ## Flaws -/

/-- A sequence of `n` bytes that the byte behind it makes invalid. -/
structure Flawed (lead : UInt8) (rest : Bytes) (n : Nat) : Prop where
  bounds : 1 ≤ n ∧ n ≤ 3 ∧ n ≤ rest.length + 1
  begins : n = 1 ∨ Begins ((lead :: rest).take n)
  spoiled : ∀ others, rest.take n <+: others → sequence lead others = .flawed n

namespace Flawed

variable {lead b c d : UInt8} {rest : Bytes} {n : Nat}

theorem of_lead (h : ∀ others, sequence lead others = .flawed 1) (rest : Bytes) : Flawed lead rest 1 :=
  ⟨⟨by omega, by omega, by omega⟩, .inl rfl, fun others _ => h others⟩

theorem of_second (h : ∀ more, sequence lead (b :: more) = .flawed 1) (rest : Bytes) :
    Flawed lead (b :: rest) 1 := by
  refine ⟨⟨by omega, by omega, by omega⟩, .inl rfl, ?_⟩
  rintro _ ⟨more, rfl⟩
  exact h more

theorem of_third (hbegins : Begins [lead, b]) (h : ∀ more, sequence lead (b :: c :: more) = .flawed 2)
    (rest : Bytes) : Flawed lead (b :: c :: rest) 2 := by
  refine ⟨⟨by omega, by omega, by simp only [List.length_cons]; omega⟩, .inr hbegins, ?_⟩
  rintro _ ⟨more, rfl⟩
  exact h more

theorem of_fourth (hbegins : Begins [lead, b, c])
    (h : ∀ more, sequence lead (b :: c :: d :: more) = .flawed 3) (rest : Bytes) :
    Flawed lead (b :: c :: d :: rest) 3 := by
  refine ⟨⟨by omega, by omega, by simp only [List.length_cons]; omega⟩, .inr hbegins, ?_⟩
  rintro _ ⟨more, rfl⟩
  exact h more

theorem of_sequence (h : sequence lead rest = .flawed n) : Flawed lead rest n := by
  unfold sequence at h
  dsimp only at h
  split_ifs at h with hone hlow htwo hthree hfour
  · obtain rfl := Sequence.flawed.inj h
    exact of_lead (fun others => by simp [sequence.eq_def, hone, hlow]) rest
  · split at h
    · cases h
    · split_ifs at h with hb
      obtain rfl := Sequence.flawed.inj h
      exact of_second (fun more => by simp [sequence, hone, hlow, htwo, hb]) _
  · split at h
    · cases h
    · split_ifs at h with hb
      · obtain rfl := Sequence.flawed.inj h
        exact of_second (fun more => by simp [sequence, hone, hlow, htwo, hthree, hb]) _
      · split at h
        · cases h
        · split_ifs at h with hc
          obtain rfl := Sequence.flawed.inj h
          exact of_third (begins_three (by omega) hthree (by simpa using hb))
            (fun more => by simp [sequence, hone, hlow, htwo, hthree, hb, hc]) _
  · split at h
    · cases h
    · split_ifs at h with hb
      · obtain rfl := Sequence.flawed.inj h
        exact of_second (fun more => by simp [sequence, hone, hlow, htwo, hthree, hfour, hb]) _
      · rename_i b after
        have hsecond : secondOfFour lead b = true := by simpa using hb
        split at h
        · cases h
        · split_ifs at h with hc
          · obtain rfl := Sequence.flawed.inj h
            exact of_third ((begins_four (by omega) hfour hsecond continues_first).of_isPrefix ⟨_, rfl⟩)
              (fun more => by simp [sequence, hone, hlow, htwo, hthree, hfour, hb, hc]) _
          · split at h
            · cases h
            · split_ifs at h with hd
              obtain rfl := Sequence.flawed.inj h
              exact of_fourth (begins_four (by omega) hfour hsecond (by simpa using hc))
                (fun more => by simp [sequence, hone, hlow, htwo, hthree, hfour, hb, hc, hd]) _
  · obtain rfl := Sequence.flawed.inj h
    exact of_lead (fun others => by simp [sequence.eq_def, hone, hlow, htwo, hthree, hfour]) rest

theorem not_begins (h : Flawed lead rest n) : ¬ Begins ((lead :: rest).take (n + 1)) := by
  rintro ⟨c, hc⟩
  obtain ⟨first, tail, hbytes, hform⟩ := exists_form c
  rw [List.take_succ_cons, hbytes, List.cons_prefix_cons] at hc
  obtain ⟨rfl, hheld⟩ := hc
  have hread := sequence_of_form hform []
  rw [List.append_nil, h.spoiled tail hheld] at hread
  cases hread

end Flawed


/-! ## Reading -/

theorem encode_cons (c : Char) (text : List Char) : encode (c :: text) = encodeChar c ++ encode text := rfl

theorem decodeLossy_encode_append (text : List Char) (rest : Bytes) :
    decodeLossy (encode text ++ rest) = text ++ decodeLossy rest := by
  induction text with
  | nil => rfl
  | cons c text ih =>
    obtain ⟨lead, tail, hbytes, hform⟩ := exists_form c
    rw [encode_cons, hbytes, List.append_assoc, List.cons_append, decodeLossy, sequence_of_form hform]
    simp [ih]

theorem decodeLossy_encode (text : List Char) : decodeLossy (encode text) = text := by
  have h := decodeLossy_encode_append text []
  rwa [List.append_nil, decodeLossy, List.append_nil] at h

/-- What stands where strict reading stops. -/
def Flaw.sequence (flaw : Flaw) : Sequence :=
  match flaw.length with
  | some n => .flawed n
  | none => .cut

/-- Strict reading stops behind a text, at a sequence that is not one character. -/
theorem exists_of_decodeFrom {index : Nat} {bytes : Bytes} {flaw : Flaw}
    (h : decodeFrom index bytes = .error flaw) :
    ∃ text lead rest, bytes = encode text ++ lead :: rest ∧
      flaw.index = index + (encode text).length ∧ sequence lead rest = flaw.sequence := by
  fun_induction decodeFrom index bytes generalizing flaw with
  | case1 => cases h
  | case2 index lead rest c n hread ih =>
    obtain ⟨tail, after, hform, rfl, rfl⟩ := sequence_eq_char_iff.mp hread
    rw [Nat.add_sub_cancel, List.drop_left] at h ih
    cases hrest : decodeFrom (index + (tail.length + 1)) after with
    | ok others =>
      rw [hrest] at h
      cases h
    | error other =>
      rw [hrest] at h
      obtain rfl := Except.error.inj h
      obtain ⟨text, first, others, rfl, hindex, hsequence⟩ := ih hrest
      refine ⟨c :: text, first, others, ?_, ?_, hsequence⟩
      · rw [encode_cons, hform, List.append_assoc, List.cons_append]
      · rw [hindex, encode_cons, hform, List.length_append, List.length_cons, Nat.add_assoc]
  | case3 index lead rest n hread =>
    obtain rfl := Except.error.inj h
    exact ⟨[], lead, rest, rfl, rfl, hread⟩
  | case4 index lead rest hread =>
    obtain rfl := Except.error.inj h
    exact ⟨[], lead, rest, rfl, rfl, hread⟩

end Runbook.Utf8
