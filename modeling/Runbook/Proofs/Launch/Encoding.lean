import Runbook.Launch.Encoding
import Runbook.Proofs.Text.Flaws

/-!
# The encodings agree

`Encoding.encodings_agree`: what the three encodings make of the same bytes. Strict reading accepts just
the well-formed bytes, and then lenient reading gives the same text. Where strict reading stops, lenient
reading has one replacement character, and goes on behind the flaw that strict reading reports.
-/

namespace Runbook

open Utf8 (Begins Flaw WellFormed)

/-! ## Texts -/

theorem textLossy_utf8_append (text : String) (rest : Bytes) :
    textLossy (utf8 text ++ rest) = text ++ textLossy rest := by
  rw [textLossy, utf8, Utf8.decodeLossy_encode_append, String.ofList_append, String.ofList_toList, textLossy]

theorem textLossy_utf8 (text : String) : textLossy (utf8 text) = text := by
  rw [textLossy, utf8, Utf8.decodeLossy_encode, String.ofList_toList]

theorem textLossy_flawed {lead : UInt8} {rest : Bytes} {n : Nat} (h : Utf8.sequence lead rest = .flawed n) :
    textLossy (lead :: rest) = "\uFFFD" ++ textLossy (rest.drop (n - 1)) := by
  rw [textLossy, Utf8.decodeLossy, h, ← "\uFFFD".ofList_toList, textLossy, ← String.ofList_append]
  rfl

theorem textLossy_cut {lead : UInt8} {rest : Bytes} (h : Utf8.sequence lead rest = .cut) :
    textLossy (lead :: rest) = "\uFFFD" := by
  rw [textLossy, Utf8.decodeLossy, h]
  rfl

theorem exists_utf8_iff {bytes : Bytes} : (∃ text, utf8 text = bytes) ↔ WellFormed bytes := by
  rw [Utf8.wellFormed_iff]
  constructor
  · rintro ⟨text, htext⟩
    exact ⟨text.toList, htext⟩
  · rintro ⟨characters, hcharacters⟩
    exact ⟨String.ofList characters, by rw [utf8, String.toList_ofList, hcharacters]⟩

theorem exists_of_text?_eq_error {bytes : Bytes} {flaw : Flaw} (h : text? bytes = .error flaw) :
    ∃ before lead rest, bytes = utf8 before ++ lead :: rest ∧ flaw.index = (utf8 before).length ∧
      Utf8.sequence lead rest = flaw.sequence := by
  unfold text? at h
  cases hread : Utf8.decode bytes with
  | ok characters =>
    rw [hread] at h
    cases h
  | error other =>
    rw [hread] at h
    obtain rfl := Except.error.inj h
    obtain ⟨text, lead, rest, hbytes, hindex, hsequence⟩ := Utf8.exists_of_decodeFrom hread
    refine ⟨String.ofList text, lead, rest, ?_, ?_, hsequence⟩
    · rw [utf8, String.toList_ofList, hbytes]
    · rw [utf8, String.toList_ofList, hindex, Nat.zero_add]

namespace Encoding

theorem decode_utf8_eq_ok_iff {stream : Bytes} {captured : Captured} :
    utf8.decode stream = .ok captured ↔ ∃ text, captured = .text text ∧ Runbook.utf8 text = stream := by
  rw [decode]
  cases hread : text? stream with
  | ok text =>
    have htext := text?_eq_ok_iff.mp hread
    constructor
    · intro h
      exact ⟨text, (Except.ok.inj h).symm, htext⟩
    · rintro ⟨other, rfl, hother⟩
      rw [text?_eq_ok_iff.mpr hother] at hread
      rw [Except.ok.inj hread]
      rfl
  | error flaw =>
    constructor
    · intro h
      cases h
    · rintro ⟨other, rfl, hother⟩
      rw [text?_eq_ok_iff.mpr hother] at hread
      cases hread

/-- Strict reading accepts just the well-formed bytes. -/
theorem exists_decode_utf8_iff {stream : Bytes} :
    (∃ captured, utf8.decode stream = .ok captured) ↔ WellFormed stream := by
  rw [← exists_utf8_iff]
  constructor
  · rintro ⟨captured, h⟩
    obtain ⟨text, -, htext⟩ := decode_utf8_eq_ok_iff.mp h
    exact ⟨text, htext⟩
  · rintro ⟨text, htext⟩
    exact ⟨_, decode_utf8_eq_ok_iff.mpr ⟨text, rfl, htext⟩⟩

theorem decode_utf8_eq_error_iff {stream : Bytes} {flaw : Flaw} :
    utf8.decode stream = .error flaw ↔ text? stream = .error flaw := by
  rw [decode]
  cases text? stream with
  | ok text => exact ⟨fun h => (nomatch h), fun h => (nomatch h)⟩
  | error other => exact ⟨fun h => congrArg _ (Except.error.inj h), fun h => congrArg _ (Except.error.inj h)⟩

/-- Where strict reading meets a sequence that is none, lenient reading has one replacement character and
goes on behind the bytes that begin it. -/
theorem textLossy_of_flawed {stream : Bytes} {index length : Nat}
    (h : utf8.decode stream = .error ⟨index, some length⟩) :
    (1 ≤ length ∧ length ≤ 3 ∧ index + length ≤ stream.length) ∧
      (length = 1 ∨ Begins ((stream.drop index).take length)) ∧
      ¬ Begins ((stream.drop index).take (length + 1)) ∧
      WellFormed (stream.take index) ∧
      ∃ before, utf8.decode (stream.take index) = .ok (.text before) ∧
        textLossy stream = before ++ "\uFFFD" ++ textLossy (stream.drop (index + length)) := by
  obtain ⟨before, lead, rest, rfl, rfl, hsequence⟩ :=
    exists_of_text?_eq_error (decode_utf8_eq_error_iff.mp h)
  have hflawed := Utf8.Flawed.of_sequence hsequence
  obtain ⟨hone, hthree, hlength⟩ := hflawed.bounds
  have hskip : (Runbook.utf8 before ++ lead :: rest).drop ((Runbook.utf8 before).length + length) =
      rest.drop (length - 1) := by
    rw [List.drop_length_add_append]
    cases length with
    | zero => omega
    | succ n => rfl
  rw [List.take_left, List.drop_left, hskip, textLossy_utf8_append, textLossy_flawed hsequence,
    ← String.append_assoc]
  refine ⟨⟨hone, hthree, ?_⟩, hflawed.begins, hflawed.not_begins, exists_utf8_iff.mp ⟨before, rfl⟩, before,
    decode_utf8_eq_ok_iff.mpr ⟨before, rfl, rfl⟩, rfl⟩
  rw [List.length_append, List.length_cons]
  omega

/-- Where strict reading comes to the end too early, lenient reading ends with one replacement character. -/
theorem textLossy_of_cut {stream : Bytes} {index : Nat} (h : utf8.decode stream = .error ⟨index, none⟩) :
    index < stream.length ∧ Begins (stream.drop index) ∧ WellFormed (stream.take index) ∧
      ∃ before, utf8.decode (stream.take index) = .ok (.text before) ∧
        textLossy stream = before ++ "\uFFFD" := by
  obtain ⟨before, lead, rest, rfl, rfl, hsequence⟩ :=
    exists_of_text?_eq_error (decode_utf8_eq_error_iff.mp h)
  rw [List.take_left, List.drop_left, textLossy_utf8_append, textLossy_cut hsequence]
  refine ⟨?_, Utf8.begins_of_cut hsequence, exists_utf8_iff.mp ⟨before, rfl⟩, before,
    decode_utf8_eq_ok_iff.mpr ⟨before, rfl, rfl⟩, rfl⟩
  rw [List.length_append, List.length_cons]
  omega

/-- **The encodings agree** on every stream. -/
theorem encodings_agree (stream : Bytes) :
    (bytes.decode stream = .ok (.bytes stream) ∧ (Captured.bytes stream).toBytes = stream ∧
      utf8Lossy.decode stream = .ok (.text (Captured.bytes stream).toTextLossy)) ∧
    ((∃ captured, utf8.decode stream = .ok captured) ↔ WellFormed stream) ∧
    (∀ captured, utf8.decode stream = .ok captured →
      captured.toBytes = stream ∧ utf8Lossy.decode stream = .ok captured) ∧
    (∀ index length, utf8.decode stream = .error ⟨index, some length⟩ →
      (1 ≤ length ∧ length ≤ 3 ∧ index + length ≤ stream.length) ∧
      (length = 1 ∨ Begins ((stream.drop index).take length)) ∧
      ¬ Begins ((stream.drop index).take (length + 1)) ∧
      WellFormed (stream.take index) ∧
      ∃ before, utf8.decode (stream.take index) = .ok (.text before) ∧
        textLossy stream = before ++ "\uFFFD" ++ textLossy (stream.drop (index + length))) ∧
    (∀ index, utf8.decode stream = .error ⟨index, none⟩ →
      index < stream.length ∧ Begins (stream.drop index) ∧ WellFormed (stream.take index) ∧
      ∃ before, utf8.decode (stream.take index) = .ok (.text before) ∧
        textLossy stream = before ++ "\uFFFD") ∧
    (utf8.decode (Runbook.utf8 (textLossy stream)) = .ok (.text (textLossy stream)) ∧
      utf8Lossy.decode (Runbook.utf8 (textLossy stream)) = .ok (.text (textLossy stream))) := by
  have hlossy : ∀ text, utf8Lossy.decode (Runbook.utf8 text) = .ok (.text text) := fun text => by
    rw [decode, textLossy_utf8]
  refine ⟨⟨rfl, rfl, rfl⟩, exists_decode_utf8_iff, ?_, fun _ _ h => textLossy_of_flawed h, fun _ h => textLossy_of_cut h,
    decode_utf8_eq_ok_iff.mpr ⟨_, rfl, rfl⟩, hlossy _⟩
  · intro captured h
    obtain ⟨text, rfl, rfl⟩ := decode_utf8_eq_ok_iff.mp h
    exact ⟨rfl, hlossy text⟩

end Encoding

end Runbook
