import Runbook.Text.Utf8

/-!
# Octets

A machine knows no characters: its names, arguments and variables are sequences of octets. Here such a
sequence is a string in which the character with the number `n` stands for the octet `n`.

`octets` gives the sequence of a text in UTF-8, and `Octets.bytes_ofBytes` says that no octet is lost.
-/

namespace Runbook.Host

namespace Octets

/-- The character that stands for an octet. -/
def ofByte (byte : UInt8) : Char := Char.ofNat byte.toNat

/-- The octet that a character stands for. -/
def byte (c : Char) : UInt8 := UInt8.ofNat c.toNat

/-- Bytes as octets. -/
def ofBytes (bytes : Bytes) : String := String.ofList (bytes.map ofByte)

/-- Octets as bytes. -/
def bytes (octets : String) : Bytes := octets.toList.map byte

theorem byte_ofByte (b : UInt8) : byte (ofByte b) = b := by
  have hb : b.toNat < 256 := b.toNat_lt
  have hvalid : b.toNat.isValidChar := Or.inl (by omega)
  have hchar : (Char.ofNat b.toNat).toNat = b.toNat := by
    rw [Char.ofNat, dif_pos hvalid]
    rfl
  rw [byte, ofByte, hchar, UInt8.ofNat_toNat]

theorem bytes_ofBytes (b : Bytes) : bytes (ofBytes b) = b := by
  unfold bytes ofBytes
  rw [String.toList_ofList, List.map_map]
  exact (List.map_congr_left fun x _ => byte_ofByte x).trans (List.map_id b)

end Octets

/-- A text as octets. -/
def octets (text : String) : String := Octets.ofBytes (utf8 text)

/-- Octets as a text. -/
def textOf (octets : String) : String := textLossy (Octets.bytes octets)

end Runbook.Host
