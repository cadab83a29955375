import Runbook.Proofs.Number.Digits
import Runbook.Proofs.Text.Lines
import Runbook.Text.Quoted

/-!
# Quoted texts are told apart

* `Escapes`: a character is written by a letter after a backslash, by its number after a backslash, or as
  it is. No character is written as the start of another (`Escapes.append_inj`).
* `quoted_append_inj`: a quoted text ends with the first double quote that is not escaped, whatever stands
  behind it.
* `quotedList_injective`: a list of texts is read off the form it is written in.
* `newline_not_mem_quotedList`: that form has no line feed.
-/

namespace Runbook.Text

/-! ## Characters -/

/-- The characters that are written by a letter, with their letters. -/
def letters : List (Char × Char) :=
  [('\t', 't'), ('\n', 'n'), ('\r', 'r'), ('\x00', '0'), ('"', '"'), ('\\', '\\')]

/-- How a character may be written. -/
inductive Escapes (c : Char) : List Char → Prop
  | letter {letter : Char} (h : (c, letter) ∈ letters) : Escapes c ['\\', letter]
  | plain (hline : c ≠ '\n') (hquote : c ≠ '"') (hbackslash : c ≠ '\\') : Escapes c [c]
  | number : Escapes c (numbered c)

theorem escapes_escape (c : Char) : Escapes c (escape c) := by
  unfold escape
  split
  iterate 6 exact .letter (by decide)
  rename_i hline _ _ hquote hbackslash
  split_ifs
  · exact .plain hline hquote hbackslash
  · exact .number
  · exact .plain hline hquote hbackslash

theorem letter_inj {c d letter : Char} (hc : (c, letter) ∈ letters) (hd : (d, letter) ∈ letters) :
    c = d := by
  have hall : ∀ a ∈ letters, ∀ b ∈ letters, a.2 = b.2 → a.1 = b.1 := by decide
  exact hall _ hc _ hd rfl

theorem letter_ne {c letter : Char} (h : (c, letter) ∈ letters) : letter ≠ 'u' ∧ letter ≠ '\n' := by
  have hall : ∀ a ∈ letters, a.2 ≠ 'u' ∧ a.2 ≠ '\n' := by decide
  exact hall _ h

theorem isAlphanum_of_mem_hexDigits {c digit : Char} (h : digit ∈ hexDigits c) :
    digit.isAlphanum = true := by
  obtain ⟨d, hd, rfl⟩ := Number.exists_digit_of_mem_toDigits (by decide) (by decide) h
  have hall : ∀ d < 16, (Nat.digitChar d).isAlphanum = true := by decide
  exact hall d hd

theorem brace_not_mem_hexDigits (c : Char) : '}' ∉ hexDigits c := fun h =>
  absurd (isAlphanum_of_mem_hexDigits h) (by decide)

theorem numbered_append_inj {c d : Char} {xs ys : List Char} (h : numbered c ++ xs = numbered d ++ ys) :
    c = d ∧ xs = ys := by
  have hbody : hexDigits c ++ '}' :: xs = hexDigits d ++ '}' :: ys := by
    simpa [numbered] using h
  obtain ⟨hdigits, hrest⟩ :=
    append_separator_inj (brace_not_mem_hexDigits c) (brace_not_mem_hexDigits d) hbody
  have hnumber : c.toNat = d.toNat := Number.toDigits_injective (by decide) (by decide) hdigits
  exact ⟨Char.toNat_inj.mp hnumber, hrest⟩

/-- No character is written as the start of another. -/
theorem Escapes.append_inj {c d : Char} {x y xs ys : List Char} (hc : Escapes c x) (hd : Escapes d y)
    (h : x ++ xs = y ++ ys) : c = d ∧ xs = ys := by
  -- The first character tells what stands as it is, and the second, never `u` for a letter, the others.
  cases hc with
  | letter hc =>
    obtain ⟨hu, -⟩ := letter_ne hc
    cases hd with
    | letter hd =>
      obtain ⟨rfl, hrest⟩ := List.cons.inj (List.cons.inj h).2
      exact ⟨letter_inj hc hd, hrest⟩
    | plain _ _ hbackslash => exact absurd (List.cons.inj h).1.symm hbackslash
    | number => exact absurd (List.cons.inj (List.cons.inj h).2).1 hu
  | plain _ _ hbackslash =>
    cases hd with
    | letter | number => exact absurd (List.cons.inj h).1 hbackslash
    | plain => exact List.cons.inj h
  | number =>
    cases hd with
    | letter hd => exact absurd (List.cons.inj (List.cons.inj h).2).1.symm (letter_ne hd).1
    | plain _ _ hbackslash => exact absurd (List.cons.inj h).1.symm hbackslash
    | number => exact numbered_append_inj h

/-- No character is written with a double quote first. -/
theorem Escapes.head_ne {c : Char} {x xs ys : List Char} (hc : Escapes c x) : x ++ xs ≠ '"' :: ys := by
  intro h
  cases hc with
  | letter | number => cases (List.cons.inj h).1
  | plain _ hquote _ => exact hquote (List.cons.inj h).1

theorem Escapes.newline_not_mem {c : Char} {x : List Char} (hc : Escapes c x) : '\n' ∉ x := by
  cases hc with
  | letter hc => simpa using (letter_ne hc).2.symm
  | plain hline _ _ => simpa using hline.symm
  | number =>
    intro h
    have hdigit : '\n' ∈ hexDigits c := by simpa [numbered] using h
    exact absurd (isAlphanum_of_mem_hexDigits hdigit) (by decide)

/-! ## Texts -/

theorem flatMap_escape_append_inj {a b xs ys : List Char}
    (h : a.flatMap escape ++ '"' :: xs = b.flatMap escape ++ '"' :: ys) : a = b ∧ xs = ys := by
  induction a generalizing b with
  | nil =>
    cases b with
    | nil => exact ⟨rfl, (List.cons.inj h).2⟩
    | cons d b =>
      rw [List.flatMap_cons, List.append_assoc] at h
      exact absurd h.symm (escapes_escape d).head_ne
  | cons c a ih =>
    rw [List.flatMap_cons, List.append_assoc] at h
    cases b with
    | nil => exact absurd h (escapes_escape c).head_ne
    | cons d b =>
      rw [List.flatMap_cons, List.append_assoc] at h
      obtain ⟨rfl, hrest⟩ := (escapes_escape c).append_inj (escapes_escape d) h
      obtain ⟨rfl, hxs⟩ := ih hrest
      exact ⟨rfl, hxs⟩

theorem toList_quoted (text : String) :
    (quoted text).toList = '"' :: text.toList.flatMap escape ++ ['"'] := String.toList_ofList

/-- A quoted text ends where it is closed. -/
theorem quoted_append_inj {a b : String} {xs ys : List Char}
    (h : (quoted a).toList ++ xs = (quoted b).toList ++ ys) : a = b ∧ xs = ys := by
  rw [toList_quoted, toList_quoted, List.append_assoc, List.append_assoc, List.cons_append,
    List.cons_append] at h
  obtain ⟨htext, hrest⟩ := flatMap_escape_append_inj (List.cons.inj h).2
  exact ⟨String.toList_inj.mp htext, hrest⟩

theorem newline_not_mem_quoted (text : String) : '\n' ∉ (quoted text).toList := by
  rw [toList_quoted]
  simp only [List.cons_append, List.mem_cons, List.mem_append, List.mem_flatMap, List.not_mem_nil,
    or_false, not_or, not_exists, not_and]
  exact ⟨by decide, fun c _ => (escapes_escape c).newline_not_mem, by decide⟩

/-! ## Lists -/

/-- What stands behind the first text of a list. -/
def behind : List String → List Char
  | [] => [']']
  | text :: texts => ',' :: ' ' :: ((quoted text).toList ++ behind texts)

theorem toList_quotedList_cons (text : String) (texts : List String) :
    (quotedList (text :: texts)).toList = '[' :: ((quoted text).toList ++ behind texts) := by
  have hseparator : ", ".toList = [',', ' '] := by decide
  have hitems : (", ".intercalate ((text :: texts).map quoted)).toList ++ [']'] =
      (quoted text).toList ++ behind texts := by
    induction texts generalizing text with
    | nil =>
      rw [List.map_cons, List.map_nil, String.intercalate_singleton]
      rfl
    | cons next texts ih =>
      rw [List.map_cons, List.map_cons, String.intercalate_cons_cons, ← List.map_cons,
        String.toList_append, String.toList_append, List.append_assoc, ih next, List.append_assoc,
        hseparator, behind, List.cons_append, List.cons_append, List.nil_append]
  rw [quotedList, bracketed, String.toList_append, String.toList_append, List.append_assoc]
  exact congrArg (List.cons '[') hitems

theorem behind_injective {texts others : List String} (h : behind texts = behind others) :
    texts = others := by
  induction texts generalizing others with
  | nil =>
    cases others with
    | nil => rfl
    | cons other others => cases h
  | cons text texts ih =>
    cases others with
    | nil => cases h
    | cons other others =>
      obtain ⟨rfl, hrest⟩ := quoted_append_inj (List.cons.inj (List.cons.inj h).2).2
      rw [ih hrest]

/-- **A list of texts is read off its quoted form.** -/
theorem quotedList_injective {texts others : List String} (h : quotedList texts = quotedList others) :
    texts = others := by
  have hlist := congrArg String.toList h
  cases texts with
  | nil =>
    cases others with
    | nil => rfl
    | cons other others =>
      rw [toList_quotedList_cons, toList_quoted] at hlist
      cases hlist
  | cons text texts =>
    rw [toList_quotedList_cons] at hlist
    cases others with
    | nil =>
      rw [toList_quoted] at hlist
      cases hlist
    | cons other others =>
      rw [toList_quotedList_cons] at hlist
      obtain ⟨rfl, hrest⟩ := quoted_append_inj (List.cons.inj hlist).2
      rw [behind_injective hrest]

theorem newline_not_mem_behind (texts : List String) : '\n' ∉ behind texts := by
  induction texts with
  | nil => decide
  | cons text texts ih =>
    simp only [behind, List.mem_cons, List.mem_append, not_or]
    exact ⟨by decide, by decide, newline_not_mem_quoted text, ih⟩

theorem newline_not_mem_quotedList (texts : List String) : '\n' ∉ (quotedList texts).toList := by
  cases texts with
  | nil => decide
  | cons text texts =>
    rw [toList_quotedList_cons, List.mem_cons, List.mem_append, not_or, not_or]
    exact ⟨by decide, newline_not_mem_quoted text, newline_not_mem_behind texts⟩

end Runbook.Text
