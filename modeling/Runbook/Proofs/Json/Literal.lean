import Mathlib.Data.List.DropRight
import Mathlib.Data.List.Forall2
import Mathlib.Tactic.SplitIfs
import Runbook.Json.Printer
import Runbook.Json.Reader

/-!
# Strings and numbers in JSON

How strings and numbers are written, said without a reader.

* A string is a sequence of characters as they are, of letters behind a backslash and of code units
  (`Body`); what it says depends on these parts only (`Denotes`). `string?_quotation` and
  `quotation_string?`: the reader reads just such strings.
* `quotation_quote`: the printer writes one. A control character stands there as a number, all others as
  they are.
* A number has a sign, a whole part, a fraction and an exponent (`Numeral`). `number?_numeral` and
  `numeral_number?`: the reader reads just such numbers, to the end if nothing behind one can go on with it
  (`Closes`).
-/

namespace Runbook.Json

/-! ## Strings -/

/-- The parts of a string, and how they are written between the quotes. -/
inductive Body : List Piece → List Char → Prop
  | nil : Body [] []
  | plain {c : Char} {pieces : List Piece} {body : List Char} (hquote : c ≠ '"') (hbackslash : c ≠ '\\')
    (hcontrol : ¬ c.toNat < 0x20) (hbody : Body pieces body) : Body (.char c :: pieces) (c :: body)
  | letter {letter c : Char} {pieces : List Piece} {body : List Char} (hletter : letter? letter = some c)
    (hbody : Body pieces body) : Body (.char c :: pieces) ('\\' :: letter :: body)
  | unit {a b c d : Char} {n : Nat} {pieces : List Piece} {body : List Char}
    (hunit : unit? a b c d = some n) (hbody : Body pieces body) :
    Body (.unit n :: pieces) ('\\' :: 'u' :: a :: b :: c :: d :: body)

/-- The text that the parts of a string say. -/
inductive Denotes : List Piece → List Char → Prop
  | nil : Denotes [] []
  | char {c : Char} {pieces : List Piece} {text : List Char} (htext : Denotes pieces text) :
    Denotes (.char c :: pieces) (c :: text)
  | pair {high low : Nat} {pieces : List Piece} {text : List Char} (hhigh : isHigh high = true)
    (hlow : isLow low = true) (htext : Denotes pieces text) :
    Denotes (.unit high :: .unit low :: pieces)
      (Char.ofNat (0x10000 + (high - 0xD800) * 0x400 + (low - 0xDC00)) :: text)
  | unit {n : Nat} {pieces : List Piece} {text : List Char} (hhigh : isHigh n = false)
    (hlow : isLow n = false) (htext : Denotes pieces text) :
    Denotes (.unit n :: pieces) (Char.ofNat n :: text)

/-- A string in quotes. It is no text if half of a surrogate pair stands alone in it. -/
inductive Quotation : Option String → List Char → Prop
  | text {pieces : List Piece} {body : List Char} {text : String} (hbody : Body pieces body)
    (htext : Denotes pieces text.toList) : Quotation (some text) ('"' :: (body ++ ['"']))
  | half {pieces : List Piece} {body : List Char} (hbody : Body pieces body)
    (hnone : ∀ text, ¬ Denotes pieces text) : Quotation none ('"' :: (body ++ ['"']))

theorem pieces?_letter {letter c : Char} (h : letter? letter = some c) (hletter : letter ≠ 'u')
    (more : List Char) :
    pieces? ('\\' :: letter :: more) = (pieces? more).map fun part => (.char c :: part.1, part.2) := by
  rw [pieces?, h]
  · cases pieces? more <;> rfl
  · intro a b d e rest heq
    exact absurd heq hletter

/-- A character that needs no backslash is read as it stands. -/
theorem pieces?_plain {c : Char} (hquote : c ≠ '"') (hbackslash : c ≠ '\\') (h : ¬ c.toNat < 0x20)
    (more : List Char) :
    pieces? (c :: more) = (pieces? more).map fun part => (.char c :: part.1, part.2) := by
  rw [pieces?, if_neg h]
  · exact hquote
  · intro a b d e rest heq
    exact absurd heq hbackslash
  · intro letter rest heq
    exact absurd heq hbackslash

theorem letter?_ne_unit {letter c : Char} (h : letter? letter = some c) : letter ≠ 'u' := by
  rintro rfl
  cases h

theorem pieces?_body {pieces : List Piece} {body : List Char} (h : Body pieces body)
    (rest : List Char) : pieces? (body ++ '"' :: rest) = some (pieces, rest) := by
  induction h with
  | nil => rfl
  | plain hquote hbackslash hcontrol _ ih =>
    rw [List.cons_append, pieces?_plain hquote hbackslash hcontrol, ih]
    rfl
  | letter hletter _ ih =>
    rw [List.cons_append, List.cons_append, pieces?_letter hletter (letter?_ne_unit hletter), ih]
    rfl
  | unit hunit _ ih =>
    simp only [List.cons_append]
    rw [pieces?, hunit, ih]
    rfl

theorem body_pieces? {text rest : List Char} {pieces : List Piece} (h : pieces? text = some (pieces, rest)) :
    ∃ body, text = body ++ '"' :: rest ∧ Body pieces body := by
  induction text using pieces?.induct generalizing pieces with
  | case1 => cases h
  | case2 more =>
    obtain ⟨rfl, rfl⟩ := Prod.mk.inj (Option.some.inj h)
    exact ⟨[], rfl, .nil⟩
  | case3 a b c d more ih =>
    rw [pieces?] at h
    obtain ⟨n, hunit, h⟩ := Option.bind_eq_some_iff.mp h
    obtain ⟨⟨others, left⟩, hmore, h⟩ := Option.bind_eq_some_iff.mp h
    obtain ⟨rfl, rfl⟩ := Prod.mk.inj (Option.some.inj h)
    obtain ⟨body, rfl, hbody⟩ := ih hmore
    exact ⟨_, rfl, .unit hunit hbody⟩
  | case4 letter more hother ih =>
    rw [pieces?] at h
    · obtain ⟨c, hletter, h⟩ := Option.bind_eq_some_iff.mp h
      obtain ⟨⟨others, left⟩, hmore, h⟩ := Option.bind_eq_some_iff.mp h
      obtain ⟨rfl, rfl⟩ := Prod.mk.inj (Option.some.inj h)
      obtain ⟨body, rfl, hbody⟩ := ih hmore
      exact ⟨_, rfl, .letter hletter hbody⟩
    · exact hother
  | case5 c more hquote hunit hletter hcontrol =>
    rw [pieces?, if_pos hcontrol] at h
    · cases h
    · exact hquote
    · exact hunit
    · exact hletter
  | case6 c more hquote hunit hletter hcontrol ih =>
    rw [pieces?, if_neg hcontrol] at h
    · obtain ⟨⟨others, left⟩, hmore, h⟩ := Option.map_eq_some_iff.mp h
      obtain ⟨rfl, rfl⟩ := Prod.mk.inj h
      obtain ⟨body, rfl, hbody⟩ := ih hmore
      have hbackslash : c ≠ '\\' := by
        intro hc
        cases hrest : body ++ '"' :: left with
        | nil => exact absurd hrest (by simp)
        | cons letter after => exact hletter letter after hc hrest
      exact ⟨_, rfl, .plain hquote hbackslash hcontrol hbody⟩
    · exact hquote
    · exact hunit
    · exact hletter

theorem text?_unit {n : Nat} (hhigh : isHigh n = false) (hlow : isLow n = false) (pieces : List Piece) :
    text? (.unit n :: pieces) = (text? pieces).map (Char.ofNat n :: ·) := by
  cases pieces with
  | nil => simp [text?, hhigh, hlow]
  | cons piece pieces =>
    cases piece with
    | char c => simp [text?, hhigh, hlow]
    | unit m => rw [text?]; simp [hhigh, hlow]

theorem text?_eq_some_iff {pieces : List Piece} {text : List Char} :
    text? pieces = some text ↔ Denotes pieces text := by
  constructor
  · intro h
    induction pieces using text?.induct generalizing text with
    | case1 =>
      rw [← Option.some.inj h]
      exact .nil
    | case2 c pieces ih =>
      rw [text?] at h
      obtain ⟨more, hmore, rfl⟩ := Option.map_eq_some_iff.mp h
      exact .char (ih hmore)
    | case3 high low pieces hpair ih =>
      rw [text?, if_pos hpair] at h
      obtain ⟨more, hmore, rfl⟩ := Option.map_eq_some_iff.mp h
      obtain ⟨hhigh, hlow⟩ := Bool.and_eq_true_iff.mp hpair
      exact .pair hhigh hlow (ih hmore)
    | case4 high low pieces hpair hhalf =>
      rw [text?, if_neg hpair, if_pos hhalf] at h
      cases h
    | case5 high low pieces hpair hhalf ih =>
      rw [text?, if_neg hpair, if_neg hhalf] at h
      obtain ⟨more, hmore, rfl⟩ := Option.map_eq_some_iff.mp h
      obtain ⟨hhigh, hlow⟩ := Bool.or_eq_false_iff.mp (Bool.eq_false_iff.mpr hhalf)
      exact .unit hhigh hlow (ih hmore)
    | case6 n pieces hother hhalf =>
      rw [text?, if_pos hhalf] at h
      · cases h
      · exact hother
    | case7 n pieces hother hhalf ih =>
      rw [text?, if_neg hhalf] at h
      · obtain ⟨more, hmore, rfl⟩ := Option.map_eq_some_iff.mp h
        obtain ⟨hhigh, hlow⟩ := Bool.or_eq_false_iff.mp (Bool.eq_false_iff.mpr hhalf)
        exact .unit hhigh hlow (ih hmore)
      · exact hother
  · intro h
    induction h with
    | nil => rfl
    | char _ ih =>
      rw [text?, ih]
      rfl
    | pair hhigh hlow _ ih =>
      rw [text?, if_pos (by rw [hhigh, hlow]; rfl), ih]
      rfl
    | unit hhigh hlow _ ih =>
      rw [text?_unit hhigh hlow, ih]
      rfl

/-- A quotation is read to its end. -/
theorem string?_quotation {text : Option String} {token : List Char} (h : Quotation text token)
    (rest : List Char) :
    ∃ body, token ++ rest = '"' :: body ∧ string? body = some (text, rest) := by
  cases h with
  | @text pieces body text hbody htext =>
    refine ⟨body ++ '"' :: rest, by simp, ?_⟩
    rw [string?, pieces?_body hbody, Option.map_some, text?_eq_some_iff.mpr htext, Option.map_some,
      String.ofList_toList]
  | @half pieces body hbody hnone =>
    have hhalf : text? pieces = none := by
      rw [Option.eq_none_iff_forall_ne_some]
      exact fun text htext => hnone text (text?_eq_some_iff.mp htext)
    refine ⟨body ++ '"' :: rest, by simp, ?_⟩
    rw [string?, pieces?_body hbody, Option.map_some, hhalf]
    rfl

theorem quotation_string? {text : Option String} {body rest : List Char}
    (h : string? body = some (text, rest)) : ∃ token, '"' :: body = token ++ rest ∧ Quotation text token := by
  obtain ⟨⟨pieces, left⟩, hpieces, heq⟩ := Option.map_eq_some_iff.mp h
  obtain ⟨htext, rfl⟩ := Prod.mk.inj heq
  obtain ⟨inner, rfl, hinner⟩ := body_pieces? hpieces
  refine ⟨'"' :: (inner ++ ['"']), by simp, ?_⟩
  cases hdenoted : text? pieces with
  | none =>
    rw [hdenoted] at htext
    subst htext
    exact .half hinner fun text htext => by rw [text?_eq_some_iff.mpr htext] at hdenoted; cases hdenoted
  | some chars =>
    rw [hdenoted] at htext
    subst htext
    refine .text hinner ?_
    rw [String.toList_ofList]
    exact text?_eq_some_iff.mp hdenoted

/-! ## What is written -/

/-- A part of a string that stands for a character as it is written. -/
def Names (piece : Piece) (c : Char) : Prop :=
  piece = .char c ∨ piece = .unit c.toNat ∧ c.toNat < 0x20

theorem unit?_hexDigit {n : Nat} (h : n < 0x20) :
    unit? '0' '0' (hexDigit (n / 16)) (hexDigit n) = some n := by
  have hall : ∀ n < 0x20, unit? '0' '0' (hexDigit (n / 16)) (hexDigit n) = some n := by decide
  exact hall n h

/-- The number of a control character is no half of a surrogate pair. -/
theorem whole_of_control {n : Nat} (h : n < 0x20) : isHigh n = false ∧ isLow n = false := by
  unfold isHigh isLow
  simp only [Bool.and_eq_false_iff, decide_eq_false_iff_not]
  omega

theorem exists_body_escape (c : Char) :
    ∃ piece, Names piece c ∧
      ∀ {pieces body}, Body pieces body → Body (piece :: pieces) (escape c ++ body) := by
  unfold escape
  split
  iterate 7 exact ⟨.char _, .inl rfl, .letter rfl⟩
  rename_i hquote hbackslash _ _ _ _ _
  by_cases hcontrol : c.toNat < 0x20
  · rw [if_pos hcontrol]
    exact ⟨.unit c.toNat, .inr ⟨rfl, hcontrol⟩, .unit (unit?_hexDigit hcontrol)⟩
  · rw [if_neg hcontrol]
    exact ⟨.char c, .inl rfl, .plain hquote hbackslash hcontrol⟩

theorem exists_body_escapes (text : List Char) :
    ∃ pieces, List.Forall₂ Names pieces text ∧ Body pieces (text.flatMap escape) := by
  induction text with
  | nil => exact ⟨[], .nil, .nil⟩
  | cons c text ih =>
    obtain ⟨piece, hpiece, hescape⟩ := exists_body_escape c
    obtain ⟨pieces, hpieces, hbody⟩ := ih
    exact ⟨piece :: pieces, .cons hpiece hpieces, hescape hbody⟩

theorem denotes_of_names {pieces : List Piece} {text : List Char} (h : List.Forall₂ Names pieces text) :
    Denotes pieces text := by
  induction h with
  | nil => exact .nil
  | @cons piece c pieces text hpiece _ ih =>
    rcases hpiece with rfl | ⟨rfl, hcontrol⟩
    · exact .char ih
    · obtain ⟨hhigh, hlow⟩ := whole_of_control hcontrol
      have hunit := Denotes.unit hhigh hlow ih
      rwa [Char.ofNat_toNat] at hunit

theorem quote_some (text : String) :
    quote (some text) = '"' :: text.toList.flatMap escape ++ ['"'] := rfl

/-- **A string is written as it is**, and one that is no text as one that is none. -/
theorem quotation_quote (text : Option String) : Quotation text (quote text) := by
  cases text with
  | none =>
    have hbody : Body [.unit 0xD800] ['\\', 'u', 'd', '8', '0', '0'] := .unit (by decide) .nil
    exact .half hbody fun text h => by cases h with | unit hhigh _ _ => cases hhigh
  | some text =>
    obtain ⟨pieces, hpieces, hbody⟩ := exists_body_escapes text.toList
    exact .text hbody (denotes_of_names hpieces)

/-! ## Numbers -/

/-- The literal of a number. -/
def IsLiteral (literal : List Char) : Prop := number? literal = some (literal, [])

/-- No number goes on with the first character. -/
def Closes (rest : List Char) : Prop :=
  ∀ c ∈ rest.head?, c.isDigit = false ∧ c ≠ '.' ∧ c ≠ 'e' ∧ c ≠ 'E'

theorem closes_nil : Closes [] := fun _ hc => nomatch hc

theorem closes_cons {c : Char} (h : c.isDigit = false ∧ c ≠ '.' ∧ c ≠ 'e' ∧ c ≠ 'E')
    (rest : List Char) : Closes (c :: rest) := fun _ hc => Option.some.inj hc ▸ h

/-- At least one digit. -/
def Digits (text : List Char) : Prop := text ≠ [] ∧ ∀ c ∈ text, c.isDigit = true

/-- The whole part of a number. -/
inductive Whole : List Char → Prop
  | zero : Whole ['0']
  | digits {c : Char} {more : List Char} (hzero : c ≠ '0') (h : Digits (c :: more)) : Whole (c :: more)

/-- The fraction of a number, if it has one. -/
inductive Fraction : List Char → Prop
  | none : Fraction []
  | digits {digits : List Char} (h : Digits digits) : Fraction ('.' :: digits)

/-- The exponent of a number, if it has one. -/
inductive Exponent : List Char → Prop
  | none : Exponent []
  | digits {mark : Char} {sign digits : List Char} (hmark : mark = 'e' ∨ mark = 'E')
    (hsign : sign = [] ∨ sign = ['+'] ∨ sign = ['-']) (h : Digits digits) :
    Exponent (mark :: (sign ++ digits))

/-- A number. -/
inductive Numeral : List Char → Prop
  | mk {sign whole fraction exponent : List Char} (hsign : sign = [] ∨ sign = ['-']) (hwhole : Whole whole)
    (hfraction : Fraction fraction) (hexponent : Exponent exponent) :
    Numeral (sign ++ whole ++ fraction ++ exponent)

section

variable {text part left rest : List Char}

/-- Digits are read up to the first character that is none. -/
theorem digits?_digits (h : Digits part) (hrest : ∀ c ∈ rest.head?, c.isDigit = false) :
    digits? (part ++ rest) = some (part, rest) := by
  have htake : rest.takeWhile Char.isDigit = [] := by
    cases rest with
    | nil => rfl
    | cons c rest => exact List.takeWhile_cons_of_neg (by simp [hrest c rfl])
  have hdrop : rest.dropWhile Char.isDigit = rest := by
    cases rest with
    | nil => rfl
    | cons c rest => exact List.dropWhile_cons_of_neg (by simp [hrest c rfl])
  rw [digits?, List.takeWhile_append_of_pos h.2, List.dropWhile_append_of_pos h.2, htake, hdrop,
    List.append_nil, if_neg (by simpa using h.1)]

theorem digits_digits? (h : digits? text = some (part, left)) : text = part ++ left ∧ Digits part := by
  unfold digits? at h
  dsimp only at h
  split_ifs at h with hempty
  obtain ⟨rfl, rfl⟩ := Prod.mk.inj (Option.some.inj h)
  exact ⟨List.takeWhile_append_dropWhile.symm, by simpa using hempty, fun c hc => List.mem_takeWhile_imp hc⟩

theorem whole?_whole (h : Whole part) (hrest : ∀ c ∈ rest.head?, c.isDigit = false) :
    whole? (part ++ rest) = some (part, rest) := by
  cases h with
  | zero => rfl
  | digits hzero hdigits =>
    rw [List.cons_append, whole?]
    · exact digits?_digits hdigits hrest
    · exact fun more heq => hzero (List.cons.inj heq).1

theorem whole_whole? (h : whole? text = some (part, left)) : text = part ++ left ∧ Whole part := by
  unfold whole? at h
  split at h
  · obtain ⟨rfl, rfl⟩ := Prod.mk.inj (Option.some.inj h)
    exact ⟨rfl, .zero⟩
  · rename_i hother
    obtain ⟨rfl, hdigits⟩ := digits_digits? h
    cases part with
    | nil => exact absurd rfl hdigits.1
    | cons c more =>
      refine ⟨rfl, .digits ?_ hdigits⟩
      rintro rfl
      exact hother _ rfl

theorem fraction?_of_ne_point {c : Char} (h : c ≠ '.') (more : List Char) :
    fraction? (c :: more) = some ([], c :: more) := by
  rw [fraction?]
  intro tail heq
  exact absurd (List.cons.inj heq).1 h

theorem fraction?_fraction (h : Fraction part)
    (hrest : ∀ c ∈ rest.head?, c.isDigit = false ∧ c ≠ '.') :
    fraction? (part ++ rest) = some (part, rest) := by
  cases h with
  | none =>
    cases rest with
    | nil => rfl
    | cons c rest => exact fraction?_of_ne_point (hrest c rfl).2 rest
  | digits hdigits =>
    rw [List.cons_append, fraction?, digits?_digits hdigits fun c hc => (hrest c hc).1]
    rfl

theorem fraction_fraction? (h : fraction? text = some (part, left)) :
    text = part ++ left ∧ Fraction part := by
  unfold fraction? at h
  split at h
  · obtain ⟨⟨digits, after⟩, hdigits, heq⟩ := Option.map_eq_some_iff.mp h
    obtain ⟨rfl, rfl⟩ := Prod.mk.inj heq
    obtain ⟨rfl, hpart⟩ := digits_digits? hdigits
    exact ⟨rfl, .digits hpart⟩
  · obtain ⟨rfl, rfl⟩ := Prod.mk.inj (Option.some.inj h)
    exact ⟨rfl, .none⟩

theorem signOf_append (signs text : List Char) :
    text = (signOf signs text).1 ++ (signOf signs text).2 ∧
      ((signOf signs text).1 = [] ∨ ∃ c ∈ signs, (signOf signs text).1 = [c]) := by
  cases text with
  | nil => exact ⟨rfl, .inl rfl⟩
  | cons c more =>
    rw [signOf]
    split_ifs with hsign
    · exact ⟨rfl, .inr ⟨c, List.contains_iff_mem.mp hsign, rfl⟩⟩
    · exact ⟨rfl, .inl rfl⟩

/-- What begins with a digit has no sign. -/
theorem signOf_digit {signs : List Char} (hsigns : signs.any Char.isDigit = false) {c : Char}
    (hc : c.isDigit = true) (more : List Char) : signOf signs (c :: more) = ([], c :: more) := by
  rw [signOf, if_neg]
  intro hsign
  have hany : signs.any Char.isDigit = true := List.any_eq_true.mpr ⟨c, List.contains_iff_mem.mp hsign, hc⟩
  rw [hsigns] at hany
  cases hany

theorem exponent?_of_mark {c : Char} (h : c = 'e' ∨ c = 'E') (more : List Char) :
    exponent? (c :: more) =
      (digits? (signOf ['+', '-'] more).2).map fun digits =>
        (c :: (signOf ['+', '-'] more).1 ++ digits.1, digits.2) := by
  rw [exponent?, if_pos h]

theorem exponent?_of_other {c : Char} (h : ¬ (c = 'e' ∨ c = 'E')) (more : List Char) :
    exponent? (c :: more) = some ([], c :: more) := by
  rw [exponent?, if_neg h]

theorem exponent?_exponent (h : Exponent part) (hrest : Closes rest) :
    exponent? (part ++ rest) = some (part, rest) := by
  cases h with
  | none =>
    cases rest with
    | nil => rfl
    | cons c rest =>
      obtain ⟨-, -, hsmall, hlarge⟩ := hrest c rfl
      exact exponent?_of_other (by simp [hsmall, hlarge]) rest
  | @digits mark sign digits hmark hsign hdigits =>
    have hread := digits?_digits hdigits fun c hc => (hrest c hc).1
    have hsplit : signOf ['+', '-'] (sign ++ (digits ++ rest)) = (sign, digits ++ rest) := by
      rcases hsign with rfl | rfl | rfl
      · cases digits with
        | nil => exact absurd rfl hdigits.1
        | cons d digits => exact signOf_digit rfl (hdigits.2 d List.mem_cons_self) _
      · rfl
      · rfl
    rw [List.cons_append, List.append_assoc, exponent?_of_mark hmark, hsplit, hread]
    rfl

theorem exponent_exponent? (h : exponent? text = some (part, left)) :
    text = part ++ left ∧ Exponent part := by
  cases text with
  | nil =>
    obtain ⟨rfl, rfl⟩ := Prod.mk.inj (Option.some.inj h)
    exact ⟨rfl, .none⟩
  | cons c more =>
    by_cases hmark : c = 'e' ∨ c = 'E'
    · rw [exponent?_of_mark hmark] at h
      obtain ⟨⟨digits, after⟩, hdigits, heq⟩ := Option.map_eq_some_iff.mp h
      obtain ⟨rfl, rfl⟩ := Prod.mk.inj heq
      obtain ⟨hmore, hsign⟩ := signOf_append ['+', '-'] more
      generalize signOf ['+', '-'] more = split at hdigits hmore hsign ⊢
      obtain ⟨hafter, hpart⟩ := digits_digits? hdigits
      refine ⟨?_, .digits hmark (by simpa using hsign) hpart⟩
      rw [hmore, hafter]
      simp
    · rw [exponent?_of_other hmark] at h
      obtain ⟨rfl, rfl⟩ := Prod.mk.inj (Option.some.inj h)
      exact ⟨rfl, .none⟩

theorem Whole.head (h : Whole part) : ∃ c more, part = c :: more ∧ c.isDigit = true := by
  cases h with
  | zero => exact ⟨'0', [], rfl, rfl⟩
  | @digits c more _ hdigits => exact ⟨c, more, rfl, hdigits.2 c List.mem_cons_self⟩

/-- What comes behind the whole part of a number is no digit. -/
theorem Exponent.head {exponent : List Char} (h : Exponent exponent) (hrest : Closes rest) :
    ∀ c ∈ (exponent ++ rest).head?, c.isDigit = false ∧ c ≠ '.' := by
  cases h with
  | none => exact fun c hc => ⟨(hrest c hc).1, (hrest c hc).2.1⟩
  | digits hmark _ _ =>
    intro c hc
    rw [List.cons_append, List.head?_cons, Option.mem_some_iff] at hc
    subst hc
    rcases hmark with rfl | rfl <;> decide

theorem Fraction.head {fraction : List Char} (h : Fraction fraction)
    (hrest : ∀ c ∈ rest.head?, c.isDigit = false) : ∀ c ∈ (fraction ++ rest).head?, c.isDigit = false := by
  cases h with
  | none => exact hrest
  | digits _ =>
    intro c hc
    rw [List.cons_append, List.head?_cons, Option.mem_some_iff] at hc
    subst hc
    rfl

theorem number?_eq_some_iff :
    number? text = some (part, left) ↔
      ∃ whole afterWhole fraction afterFraction exponent,
        whole? (signOf ['-'] text).2 = some (whole, afterWhole) ∧
        fraction? afterWhole = some (fraction, afterFraction) ∧
        exponent? afterFraction = some (exponent, left) ∧
        (signOf ['-'] text).1 ++ whole ++ fraction ++ exponent = part := by
  simp only [number?, Option.bind_eq_bind, Option.bind_eq_some_iff, Prod.exists, Option.pure_def,
    Option.some.injEq, Prod.mk.injEq]
  grind

/-- A number is read to its end. -/
theorem number?_numeral (h : Numeral part) (hrest : Closes rest) :
    number? (part ++ rest) = some (part, rest) := by
  obtain @⟨sign, whole, fraction, exponent, hsign, hwhole, hfraction, hexponent⟩ := h
  have hafter := hexponent.head hrest
  have hbehind := hfraction.head fun c hc => (hafter c hc).1
  have hsplit : signOf ['-'] (sign ++ (whole ++ (fraction ++ (exponent ++ rest)))) =
      (sign, whole ++ (fraction ++ (exponent ++ rest))) := by
    rcases hsign with rfl | rfl
    · obtain ⟨c, more, rfl, hc⟩ := hwhole.head
      exact signOf_digit rfl hc _
    · rfl
  have htext : sign ++ whole ++ fraction ++ exponent ++ rest =
      sign ++ (whole ++ (fraction ++ (exponent ++ rest))) := by simp
  rw [number?_eq_some_iff, htext, hsplit]
  exact ⟨whole, _, fraction, _, exponent, whole?_whole hwhole hbehind, fraction?_fraction hfraction hafter,
    exponent?_exponent hexponent hrest, rfl⟩

theorem numeral_number? (h : number? text = some (part, left)) : text = part ++ left ∧ Numeral part := by
  obtain ⟨whole, afterWhole, fraction, afterFraction, exponent, hreadWhole, hreadFraction, hreadExponent,
    rfl⟩ := number?_eq_some_iff.mp h
  obtain ⟨htext, hsign⟩ := signOf_append ['-'] text
  generalize signOf ['-'] text = split at hreadWhole htext hsign ⊢
  obtain ⟨hrest, hwhole⟩ := whole_whole? hreadWhole
  obtain ⟨rfl, hfraction⟩ := fraction_fraction? hreadFraction
  obtain ⟨rfl, hexponent⟩ := exponent_exponent? hreadExponent
  refine ⟨?_, .mk (by simpa using hsign) hwhole hfraction hexponent⟩
  rw [htext, hrest]
  simp

/-- A number begins with a sign or a digit. -/
theorem Numeral.head (h : Numeral part) : ∃ c more, part = c :: more ∧ (c = '-' ∨ c.isDigit = true) := by
  obtain @⟨sign, whole, fraction, exponent, hsign, hwhole, -, -⟩ := h
  rcases hsign with rfl | rfl
  · obtain ⟨c, more, rfl, hc⟩ := hwhole.head
    exact ⟨c, more ++ fraction ++ exponent, by simp, .inr hc⟩
  · exact ⟨'-', whole ++ fraction ++ exponent, by simp, .inl rfl⟩

theorem isLiteral_iff : IsLiteral text ↔ Numeral text := by
  constructor
  · exact fun h => (numeral_number? h).2
  · intro h
    have hread := number?_numeral h closes_nil
    rwa [List.append_nil] at hread

end

end Runbook.Json
