import Mathlib.Data.List.Basic

/-!
# Texts that end in decimals

A text followed by a decimal number can be taken apart in several ways, since a text may end in
digits itself. A beginning of a decimal is a decimal again, and the shortest continuation of it is a
single zero.
-/

namespace TestSkeleton.Text

/-- A decimal with one more zero. -/
theorem toDigits_ten_mul {n : Nat} (h : 0 < n) :
    Nat.toDigits 10 (10 * n) = Nat.toDigits 10 n ++ Nat.toDigits 10 0 := by
  rw [Nat.toDigits_append_toDigits (by decide) h (by decide), Nat.add_zero]

/-- A decimal of several digits is one of the tenth part, then the last digit. -/
theorem toDigits_of_ten_le {n : Nat} (h : 10 ≤ n) :
    Nat.toDigits 10 n = Nat.toDigits 10 (n / 10) ++ [(n % 10).digitChar] :=
  Nat.toDigits_of_base_le (by decide) h

/-- What stands before a decimal at the end of another one is nothing or a decimal. -/
theorem toDigits_eq_append {v w : Nat} {cs : List Char}
    (h : Nat.toDigits 10 v = cs ++ Nat.toDigits 10 w) :
    cs = [] ∨ ∃ n, 0 < n ∧ cs = Nat.toDigits 10 n ∧ 10 * n ≤ v := by
  induction w using Nat.strongRecOn generalizing v with
  | ind w ih =>
    by_cases hv : v < 10
    · left
      have hlen := congrArg List.length h
      have hw := Nat.length_toDigits_pos (b := 10) (n := w)
      rw [Nat.toDigits_of_lt_base hv, List.length_append, List.length_singleton] at hlen
      exact List.eq_nil_of_length_eq_zero (by omega)
    · rw [toDigits_of_ten_le (Nat.not_lt.mp hv)] at h
      by_cases hw : w < 10
      · right
        rw [Nat.toDigits_of_lt_base hw] at h
        exact ⟨v / 10, by omega, (List.append_inj' h rfl).1.symm, by omega⟩
      · rw [toDigits_of_ten_le (Nat.not_lt.mp hw), ← List.append_assoc] at h
        rcases ih (w / 10) (by omega) (List.append_inj' h rfl).1 with hcs | ⟨n, hn, hcs, hle⟩
        · exact .inl hcs
        · exact .inr ⟨n, hn, hcs, by omega⟩

/-- The characters of a decimal are its digits. -/
theorem toList_toString (n : Nat) : (toString n).toList = Nat.toDigits 10 n := by
  rw [Nat.toString_eq_repr, Nat.toList_repr]

/-- Different numbers have different digits. -/
theorem toDigits_injective {v w : Nat} (h : Nat.toDigits 10 v = Nat.toDigits 10 w) : v = w := by
  have := congrArg (Nat.ofDigitChars 10 · 0) h
  simpa only [Nat.ofDigitChars_ten_toDigits] using this

/-- Only the zero longer decimal of a text is shorter than any other one. -/
theorem append_toString_ten_mul (s : String) {n : Nat} (h : 0 < n) :
    s ++ toString (10 * n) = s ++ toString n ++ toString 0 := by
  apply String.toList_inj.mp
  simp only [String.toList_append, toList_toString, toDigits_ten_mul h, List.append_assoc]

/-- A text does not change by nothing but a decimal. -/
theorem append_toString_ne (s : String) (n : Nat) : s ++ toString n ≠ s := by
  intro h
  have hlen := congrArg (fun t => t.toList.length) h
  have hn := Nat.length_toDigits_pos (b := 10) (n := n)
  simp only [String.toList_append, toList_toString, List.length_append] at hlen
  omega

private theorem eq_or_longer {s t : String} {cs : List Char} {v w : Nat}
    (ht : t.toList = s.toList ++ cs) (h : Nat.toDigits 10 v = cs ++ Nat.toDigits 10 w) :
    (s = t ∧ v = w) ∨ ∃ n, 0 < n ∧ t = s ++ toString n ∧ 10 * n ≤ v := by
  rcases toDigits_eq_append h with rfl | ⟨n, hn, rfl, hle⟩
  · left
    rw [List.append_nil] at ht
    exact ⟨String.toList_inj.mp ht.symm, toDigits_injective h⟩
  · right
    refine ⟨n, hn, String.toList_inj.mp ?_, hle⟩
    rw [String.toList_append, toList_toString, ht]

/-- Texts with decimals after them are equal where texts and numbers are, and else only where the
longer text ends in a decimal with which the number after the shorter one starts. -/
theorem append_toString_eq {s t : String} {v w : Nat} (h : s ++ toString v = t ++ toString w) :
    (s = t ∧ v = w) ∨ (∃ n, 0 < n ∧ t = s ++ toString n ∧ 10 * n ≤ v) ∨
      (∃ n, 0 < n ∧ s = t ++ toString n ∧ 10 * n ≤ w) := by
  have hlist := congrArg String.toList h
  rw [String.toList_append, String.toList_append, toList_toString, toList_toString] at hlist
  rcases List.append_eq_append_iff.mp hlist with ⟨cs, ht, hd⟩ | ⟨cs, hs, hd⟩
  · rcases eq_or_longer ht hd with h | h
    · exact .inl h
    · exact .inr (.inl h)
  · rcases eq_or_longer hs hd with ⟨hst, hvw⟩ | h
    · exact .inl ⟨hst.symm, hvw.symm⟩
    · exact .inr (.inr h)

/-! ### Texts that end in no digit -/

/-- Whether the last character of a text is an ASCII digit. -/
def endsInDigit (s : String) : Bool := s.toList.getLast?.any Char.isDigit

/-- A text followed by a decimal ends in a digit. -/
theorem endsInDigit_append_toString (s : String) (n : Nat) :
    endsInDigit (s ++ toString n) = true := by
  have hne : Nat.toDigits 10 n ≠ [] := List.ne_nil_of_length_pos Nat.length_toDigits_pos
  rw [endsInDigit, String.toList_append, toList_toString, List.getLast?_append_of_ne_nil _ hne,
    List.getLast?_eq_some_getLast hne, Option.any_some]
  exact Nat.isDigit_of_mem_toDigits (by decide) (by decide) (List.getLast_mem hne)

/-- Where the texts end in no digit, all digits at the end are those of the decimals. -/
theorem append_toString_inj {s t : String} (hs : endsInDigit s = false) (ht : endsInDigit t = false)
    {v w : Nat} : s ++ toString v = t ++ toString w ↔ s = t ∧ v = w := by
  constructor
  · intro h
    rcases append_toString_eq h with heq | ⟨n, -, rfl, -⟩ | ⟨n, -, rfl, -⟩
    · exact heq
    · rw [endsInDigit_append_toString] at ht
      cases ht
    · rw [endsInDigit_append_toString] at hs
      cases hs
  · rintro ⟨rfl, rfl⟩
    rfl

end TestSkeleton.Text
