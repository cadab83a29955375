import Mathlib.Tactic.SplitIfs

/-!
# Digits

Numbers can be told by their digits, in any base up to sixteen, and whole numbers by their decimal texts.
-/

namespace Runbook.Number

theorem digitChar_inj {m n : Nat} (hm : m < 16) (hn : n < 16) (h : m.digitChar = n.digitChar) :
    m = n := by
  have hall : ∀ m < 16, ∀ n < 16, m.digitChar = n.digitChar → m = n := by decide
  exact hall m hm n hn h

/-- Each of the digits is one. -/
theorem exists_digit_of_mem_toDigits {base n : Nat} (hlow : 1 < base) (hhigh : base ≤ 16) {c : Char}
    (h : c ∈ Nat.toDigits base n) : ∃ d < 16, c = d.digitChar := by
  induction n using Nat.strongRecOn with
  | ind n ih =>
    rw [Nat.toDigits_eq_if hlow] at h
    split_ifs at h with hsmall
    · exact ⟨n, Nat.lt_of_lt_of_le hsmall hhigh, List.mem_singleton.mp h⟩
    · rcases List.mem_append.mp h with h | h
      · exact ih (n / base) (Nat.div_lt_self (by omega) hlow) h
      · exact ⟨n % base, Nat.lt_of_lt_of_le (Nat.mod_lt n (by omega)) hhigh, List.mem_singleton.mp h⟩

theorem toDigits_injective {base : Nat} (hlow : 1 < base) (hhigh : base ≤ 16) {m n : Nat}
    (h : Nat.toDigits base m = Nat.toDigits base n) : m = n := by
  induction m using Nat.strongRecOn generalizing n with
  | ind m ih =>
    rw [Nat.toDigits_eq_if hlow, Nat.toDigits_eq_if hlow (n := n)] at h
    split_ifs at h with hm hn hn
    · exact digitChar_inj (by omega) (by omega) (List.singleton_inj.mp h)
    · have hnil : [] ++ [m.digitChar] = Nat.toDigits base (n / base) ++ [(n % base).digitChar] := h
      exact absurd (List.append_inj' hnil rfl).1.symm Nat.toDigits_ne_nil
    · have hnil : Nat.toDigits base (m / base) ++ [(m % base).digitChar] = [] ++ [n.digitChar] := h
      exact absurd (List.append_inj' hnil rfl).1 Nat.toDigits_ne_nil
    · obtain ⟨hfront, hlast⟩ := List.append_inj' h rfl
      have hquotient := ih (m / base) (Nat.div_lt_self (by omega) hlow) hfront
      have hmod := fun k => Nat.lt_of_lt_of_le (Nat.mod_lt k (Nat.zero_lt_of_lt hlow)) hhigh
      have hrest := digitChar_inj (hmod m) (hmod n) (List.singleton_inj.mp hlast)
      rw [← Nat.div_add_mod m base, hquotient, hrest, Nat.div_add_mod]

/-! ## Decimal texts -/

theorem nat_repr_injective {m n : Nat} (h : m.repr = n.repr) : m = n :=
  toDigits_injective (by decide) (by decide) (String.ofList_inj.mp h)

theorem minus_not_mem_repr (n : Nat) : '-' ∉ n.repr.toList := by
  rw [Nat.repr, String.toList_ofList]
  intro h
  obtain ⟨digit, hlt, heq⟩ := exists_digit_of_mem_toDigits (by decide) (by decide) h
  revert heq
  revert digit
  decide

theorem int_repr_injective {a b : Int} (h : a.repr = b.repr) : a = b := by
  have hminus : ∀ m n : Nat, m.repr ≠ "-" ++ n.repr := by
    intro m n h
    refine minus_not_mem_repr m ?_
    rw [h, String.toList_append]
    exact List.mem_append_left _ (by decide)
  match a, b with
  | .ofNat m, .ofNat n => rw [nat_repr_injective h]
  | .ofNat m, .negSucc n => exact absurd h (hminus m _)
  | .negSucc m, .ofNat n => exact absurd h.symm (hminus n _)
  | .negSucc m, .negSucc n =>
    have hchars : "-".toList ++ (m + 1).repr.toList = "-".toList ++ (n + 1).repr.toList := by
      rw [← String.toList_append, ← String.toList_append]
      exact congrArg String.toList h
    have hrest : m + 1 = n + 1 :=
      nat_repr_injective (String.toList_inj.mp (List.append_cancel_left hchars))
    rw [Nat.succ.inj hrest]

end Runbook.Number
