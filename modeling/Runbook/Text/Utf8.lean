/-!
# UTF-8

Texts written as bytes, and bytes read as texts, strictly or leniently.

* `encode` writes every character in its shortest form.
* `decode` reads well-formed bytes only. The flaw it reports is the first sequence that is not
  well formed: where it starts, and the length of its longest valid beginning (at least one byte),
  or that the bytes end inside it.
* `decodeLossy` reads any bytes: every flawed sequence counts as one replacement character.

All three go one sequence at a time; `sequence` knows the form of a single sequence.
-/

namespace Runbook

/-- A string of bytes. -/
abbrev Bytes := List UInt8

namespace Utf8

/-! ## Writing -/

/-- The bytes of one character. -/
def encodeChar (c : Char) : Bytes :=
  let n := c.toNat
  if n < 0x80 then [n.toUInt8]
  else if n < 0x800 then [(0xC0 + n / 0x40).toUInt8, (0x80 + n % 0x40).toUInt8]
  else if n < 0x10000 then
    [(0xE0 + n / 0x1000).toUInt8, (0x80 + n / 0x40 % 0x40).toUInt8, (0x80 + n % 0x40).toUInt8]
  else
    [(0xF0 + n / 0x40000).toUInt8, (0x80 + n / 0x1000 % 0x40).toUInt8,
      (0x80 + n / 0x40 % 0x40).toUInt8, (0x80 + n % 0x40).toUInt8]

/-- The bytes of a text. -/
def encode (text : List Char) : Bytes := text.flatMap encodeChar

/-! ## One sequence -/

/-- What stands at the start of a nonempty string of bytes. -/
inductive Sequence where
  /-- A character, written in this many bytes. -/
  | char (c : Char) (length : Nat)
  /-- A sequence that no continuation makes valid; its longest valid beginning, at least one byte,
  has this length. -/
  | flawed (length : Nat)
  /-- The bytes end inside a sequence that is valid so far. -/
  | cut
  deriving DecidableEq, Repr

/-- A byte of the form `10xxxxxx`. -/
def continues (b : UInt8) : Bool := 0x80 ≤ b.toNat && b.toNat < 0xC0

/-- The second bytes allowed after the first byte of a sequence of three: no longer form than needed,
and no surrogate. -/
def secondOfThree (lead second : UInt8) : Bool :=
  continues second &&
    (lead.toNat != 0xE0 || 0xA0 ≤ second.toNat) && (lead.toNat != 0xED || second.toNat < 0xA0)

/-- The second bytes allowed after the first byte of a sequence of four: no longer form than needed,
and nothing above the last code point. -/
def secondOfFour (lead second : UInt8) : Bool :=
  continues second &&
    (lead.toNat != 0xF0 || 0x90 ≤ second.toNat) && (lead.toNat != 0xF4 || second.toNat < 0x90)

/-- The payload of a continuation byte. -/
def payload (b : UInt8) : Nat := b.toNat % 0x40

/-- The sequence that starts with `lead` and goes on with `rest`. -/
def sequence (lead : UInt8) (rest : Bytes) : Sequence :=
  let l := lead.toNat
  if l < 0x80 then .char (Char.ofNat l) 1
  else if l < 0xC2 then .flawed 1
  else if l < 0xE0 then
    match rest with
    | [] => .cut
    | b :: _ => if continues b then .char (Char.ofNat (l % 0x20 * 0x40 + payload b)) 2 else .flawed 1
  else if l < 0xF0 then
    match rest with
    | [] => .cut
    | b :: rest =>
      if !secondOfThree lead b then .flawed 1
      else match rest with
        | [] => .cut
        | c :: _ =>
          if continues c then .char (Char.ofNat (l % 0x10 * 0x1000 + payload b * 0x40 + payload c)) 3
          else .flawed 2
  else if l < 0xF5 then
    match rest with
    | [] => .cut
    | b :: rest =>
      if !secondOfFour lead b then .flawed 1
      else match rest with
        | [] => .cut
        | c :: rest =>
          if !continues c then .flawed 2
          else match rest with
            | [] => .cut
            | d :: _ =>
              if continues d then
                .char (Char.ofNat
                  (l % 0x8 * 0x40000 + payload b * 0x1000 + payload c * 0x40 + payload d)) 4
              else .flawed 3
  else .flawed 1

/-! ## Reading -/

/-- Where bytes stop being a text: the index of the first sequence that is not one character, and the
length of its longest valid beginning, absent if the bytes end inside the sequence. -/
structure Flaw where
  index : Nat
  length : Option Nat
  deriving DecidableEq, Repr

/-- What a flaw is called. -/
def Flaw.message (flaw : Flaw) : String :=
  match flaw.length with
  | some n => s!"invalid utf-8 sequence of {n} bytes from index {flaw.index}"
  | none => s!"incomplete utf-8 byte sequence from index {flaw.index}"

/-- Strict reading of the bytes that start at `index`. -/
def decodeFrom (index : Nat) : Bytes → Except Flaw (List Char)
  | [] => .ok []
  | lead :: rest =>
    match sequence lead rest with
    | .char c n => (c :: ·) <$> decodeFrom (index + n) (rest.drop (n - 1))
    | .flawed n => .error ⟨index, some n⟩
    | .cut => .error ⟨index, none⟩
termination_by bytes => bytes.length
decreasing_by simp only [List.length_cons, List.length_drop]; omega

/-- The text that the bytes write, if they are well formed throughout. -/
def decode (bytes : Bytes) : Except Flaw (List Char) := decodeFrom 0 bytes

/-- The character that stands for what cannot be read. -/
def replacement : Char := '\uFFFD'

/-- The text that the bytes write, with `replacement` for every flawed sequence. -/
def decodeLossy : Bytes → List Char
  | [] => []
  | lead :: rest =>
    match sequence lead rest with
    | .char c n => c :: decodeLossy (rest.drop (n - 1))
    | .flawed n => replacement :: decodeLossy (rest.drop (n - 1))
    | .cut => [replacement]
termination_by bytes => bytes.length
decreasing_by all_goals simp only [List.length_cons, List.length_drop]; omega

end Utf8

/-! ## Texts as bytes -/

/-- The bytes of a text. -/
def utf8 (text : String) : Bytes := Utf8.encode text.toList

/-- The text that the bytes write, if they are well formed throughout. -/
def text? (bytes : Bytes) : Except Utf8.Flaw String := String.ofList <$> Utf8.decode bytes

/-- The text that the bytes write, with the replacement character for what cannot be read. -/
def textLossy (bytes : Bytes) : String := String.ofList (Utf8.decodeLossy bytes)

end Runbook
