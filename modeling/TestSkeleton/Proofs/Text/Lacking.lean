import TestSkeleton.Proofs.Text.Decimal
import TestSkeleton.Proofs.Text.Split
import TestSkeleton.Text.Case

/-!
# Texts without certain characters

Line breaks, brackets and the like are where a reader of source text stops. A text that lacks them
is put together from texts that lack them, and changing the case of its first letter brings none in.
-/

namespace TestSkeleton.Text

/-- A text has none of some characters. -/
def Lacks (cs : List Char) (s : String) : Prop := ∀ x ∈ s.toList, x ∉ cs

instance (cs : List Char) (s : String) : Decidable (Lacks cs s) :=
  List.decidableBAll (· ∉ cs) s.toList

variable {cs : List Char} {s t : String} {ss : List String}

/-- Two texts together lack what both lack. -/
@[simp] theorem lacks_append : Lacks cs (s ++ t) ↔ Lacks cs s ∧ Lacks cs t := by
  simp only [Lacks, String.toList_append, List.mem_append]
  exact ⟨fun h => ⟨fun x hx => h x (.inl hx), fun x hx => h x (.inr hx)⟩,
    fun h x hx => hx.elim (h.1 x) (h.2 x)⟩

/-- Texts one after the other lack what all of them lack. -/
theorem lacks_join (h : ∀ s ∈ ss, Lacks cs s) : Lacks cs (String.join ss) := by
  intro x hx
  rw [String.toList_join, List.mem_flatMap] at hx
  obtain ⟨s, hs, hx⟩ := hx
  exact h s hs x hx

/-- Texts with a separator lack what the separator and all of them lack. -/
theorem lacks_intercalate {sep : String} (hsep : Lacks cs sep) (h : ∀ s ∈ ss, Lacks cs s) :
    Lacks cs (sep.intercalate ss) := by
  intro x hx
  by_cases hmem : x ∈ sep.toList
  · exact hsep x hmem
  · rw [String.toList_intercalate, mem_intercalate_iff hmem] at hx
    obtain ⟨part, hpart, hx⟩ := hx
    obtain ⟨s, hs, rfl⟩ := List.mem_map.mp hpart
    exact h s hs x hx

/-- What is taken from a text lacks what the text lacks. -/
theorem Lacks.of_subset (h : Lacks cs s) (hsub : t.toList ⊆ s.toList) : Lacks cs t :=
  fun x hx => h x (hsub hx)

/-! ### Marks -/

/-- Whether a character of ASCII is neither a letter nor a digit. -/
def isMark (x : Char) : Bool := isCaseless x && !x.isDigit

/-- A text of letters and digits lacks all marks. -/
theorem lacks_of_not_any_mark (hcs : cs.all isMark) (h : s.toList.any isMark = false) :
    Lacks cs s :=
  fun x hx hmem => List.any_eq_false.mp h x hx (List.all_eq_true.mp hcs x hmem)

private theorem isCaseless_of_isMark {x : Char} (h : isMark x = true) : isCaseless x = true :=
  (Bool.and_eq_true_iff.mp h).1

/-- Marks that a text lacks, it lacks with its first letter raised. -/
theorem Lacks.capitalize (hcs : cs.all isMark) (h : Lacks cs s) :
    Lacks cs (Text.capitalize s) := fun x hx hmem =>
  not_mem_capitalize (isCaseless_of_isMark (List.all_eq_true.mp hcs x hmem)) (fun hs => h x hs hmem) hx

/-- Marks that a text lacks, it lacks with its first letter lowered. -/
theorem Lacks.decapitalize (hcs : cs.all isMark) (h : Lacks cs s) :
    Lacks cs (Text.decapitalize s) := fun x hx hmem =>
  not_mem_decapitalize (isCaseless_of_isMark (List.all_eq_true.mp hcs x hmem)) (fun hs => h x hs hmem) hx

/-- A decimal has no marks in it. -/
theorem lacks_toString (hcs : cs.all isMark) (n : Nat) : Lacks cs (toString n) := by
  refine lacks_of_not_any_mark hcs (List.any_eq_false.mpr fun x hx => ?_)
  rw [toList_toString] at hx
  simp [isMark, Nat.isDigit_of_mem_toDigits (by decide) (by decide) hx]

end TestSkeleton.Text
