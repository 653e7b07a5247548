import TestSkeleton.Number.Numeral

/-!
# The length of numerals

A whole number has no more digits than the numeral that it is read from. So what is read from a
decimal numeral is short enough to be written.
-/

namespace TestSkeleton

namespace Text

/-- A digit is less than its base. -/
theorem baseDigit?_lt {base n : Nat} {c : Char} (h : baseDigit? base c = some n) : n < base := by
  rw [baseDigit?] at h
  obtain ⟨hlt, h⟩ := Option.ite_none_right_eq_some.mp h
  rwa [Option.some.inj h] at hlt

/-- Digits spell a number below the next power of their base. -/
theorem ofDigits_lt {base : Nat} (hbase : 0 < base) (cs : List Char) :
    ofDigits base cs < Nat.pow base cs.length := by
  have hfold (n : Nat) : cs.foldl (fun n c => n * base + (baseDigit? base c).getD 0) n <
      (n + 1) * Nat.pow base cs.length := by
    induction cs generalizing n with
    | nil => exact Nat.lt_of_lt_of_eq (Nat.lt_succ_self n) (Nat.mul_one _).symm
    | cons c cs ih =>
      have hdigit : (baseDigit? base c).getD 0 < base := by
        cases hc : baseDigit? base c with
        | none => exact hbase
        | some m => exact baseDigit?_lt hc
      calc
        _ < (n * base + (baseDigit? base c).getD 0 + 1) * Nat.pow base cs.length := ih _
        _ ≤ ((n + 1) * base) * Nat.pow base cs.length :=
          Nat.mul_le_mul_right _ (by rw [Nat.succ_mul]; omega)
        _ = (n + 1) * Nat.pow base (c :: cs).length := by
          rw [Nat.mul_assoc, Nat.mul_comm base]
          rfl
  exact Nat.lt_of_lt_of_eq (hfold 0) (Nat.one_mul _)

end Text

/-- A whole number that is read from decimal digits is short enough to be written. -/
theorem Numeral.isLong_of_ofDecimalDigits? {negative : Bool} {digits : List Char} {i : Int}
    (h : ofDecimalDigits? negative digits = some i) : isLong i = false := by
  rw [ofDecimalDigits?] at h
  split at h
  · cases h
  · next hlength =>
    cases h
    have habs : (signed negative (Text.ofDigits 10 digits)).natAbs = Text.ofDigits 10 digits := by
      cases negative <;> simp [signed]
    have hpow {k : Nat} (hk : digits.length ≤ k) : Text.ofDigits 10 digits < Nat.pow 10 k :=
      Nat.lt_of_lt_of_le (Text.ofDigits_lt (by decide) digits) (Nat.pow_le_pow_right (by decide) hk)
    rw [isLong, habs, decide_eq_false_iff_not, Nat.not_le]
    exact hpow (Nat.le_of_not_lt hlength)

end TestSkeleton
