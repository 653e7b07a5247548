import TestSkeleton.Text.Order

/-!
# The order of texts is total

Texts, and lists of texts, are ordered totally, and only equal ones are alike in the order. It is
the order that lists and texts have by themselves. So a list whose items have different texts can be
sorted by them in one way only, whatever its order was.
-/

namespace TestSkeleton.Text

instance : Std.TransCmp compareChars :=
  inferInstanceAs (Std.TransCmp (compareOn Char.toNat))

instance : Std.LawfulEqCmp compareChars where
  eq_of_compare h := Char.toNat_inj.mp (Std.LawfulEqCmp.eq_of_compare h)

instance : Std.TransCmp compareTexts where
  eq_swap {s t} :=
    show List.compareLex compareChars s.toList t.toList = _ from Std.OrientedCmp.eq_swap
  isLE_trans {r _ t} h h' :=
    show (List.compareLex compareChars r.toList t.toList).isLE = true from
      Std.TransCmp.isLE_trans h h'

instance : Std.LawfulEqCmp compareTexts where
  eq_of_compare h := String.toList_inj.mp (Std.LawfulEqCmp.eq_of_compare h)

instance : Std.TransCmp compareTextLists :=
  inferInstanceAs (Std.TransCmp (List.compareLex compareTexts))

instance : Std.LawfulEqCmp compareTextLists :=
  inferInstanceAs (Std.LawfulEqCmp (List.compareLex compareTexts))

private theorem compareLex_eq_lt {α : Type} [LT α] {cmp : α → α → Ordering}
    (hlt : ∀ a b, cmp a b = .lt ↔ a < b) (heq : ∀ a b, cmp a b = .eq ↔ a = b) (xs ys : List α) :
    List.compareLex cmp xs ys = .lt ↔ xs < ys := by
  induction xs generalizing ys with
  | nil => cases ys <;> simp [List.compareLex]
  | cons x xs ih =>
    cases ys with
    | nil => simp [List.compareLex]
    | cons y ys =>
      rw [List.compareLex_cons_cons, Ordering.then_eq_lt, hlt, heq, ih, List.cons_lt_cons_iff]

/-- A text is less than another one by its characters. -/
theorem compareTexts_eq_lt (s t : String) : compareTexts s t = .lt ↔ s < t := by
  have hchars : ∀ c d, compareChars c d = .lt ↔ c < d := fun _ _ => Nat.compare_eq_lt
  exact compareLex_eq_lt hchars (fun _ _ => Std.LawfulEqCmp.compare_eq_iff_eq) s.toList t.toList

/-- A list of texts is less than another one by its texts. -/
theorem compareTextLists_eq_lt (ss ts : List String) : compareTextLists ss ts = .lt ↔ ss < ts :=
  compareLex_eq_lt compareTexts_eq_lt (fun _ _ => Std.LawfulEqCmp.compare_eq_iff_eq) ss ts

/-- Of two lists of texts one at most is less than the other. -/
theorem not_lt_of_lt {ss ts : List String} (h : ss < ts) : ¬ ts < ss := by
  rw [← compareTextLists_eq_lt] at h ⊢
  exact Std.OrientedCmp.not_lt_of_lt h

/-! ### Sorting by texts -/

variable {α : Type} {l l' : List α}

private theorem pairwise_mergeSort (key : α → List String) (l : List α) :
    (l.mergeSort fun a b => (compareTextLists (key a) (key b)).isLE).Pairwise
      fun a b => (compareTextLists (key a) (key b)).isLE = true := by
  refine List.pairwise_mergeSort ?_ ?_ l
  · intro a b c hab hbc
    exact Std.TransCmp.isLE_trans hab hbc
  · intro a b
    have hswap : compareTextLists (key b) (key a) = (compareTextLists (key a) (key b)).swap :=
      Std.OrientedCmp.eq_swap
    rw [hswap]
    cases compareTextLists (key a) (key b) <;> rfl

/-- Sorting does not depend on the order before. -/
theorem mergeSort_eq_of_perm {key : α → List String} (h : l.Perm l')
    (hkey : ∀ a ∈ l, ∀ b ∈ l, key a = key b → a = b) :
    (l.mergeSort fun a b => (compareTextLists (key a) (key b)).isLE) =
      l'.mergeSort fun a b => (compareTextLists (key a) (key b)).isLE := by
  have hperm : (l.mergeSort fun a b => (compareTextLists (key a) (key b)).isLE).Perm
      (l'.mergeSort fun a b => (compareTextLists (key a) (key b)).isLE) :=
    (List.mergeSort_perm _ _).trans (h.trans (List.mergeSort_perm _ _).symm)
  refine List.Perm.eq_of_pairwise (fun a b ha hb hab hba => ?_) (pairwise_mergeSort key l)
    (pairwise_mergeSort key l') hperm
  refine hkey a (List.mem_mergeSort.mp ha) b (h.mem_iff.mpr (List.mem_mergeSort.mp hb)) ?_
  exact Std.LawfulEqCmp.eq_of_compare (Std.OrientedCmp.isLE_antisymm hab hba)

/-- Items may be dropped before sorting or after it. -/
theorem filter_mergeSort {key : α → List String} (keep : α → Bool)
    (hkey : ∀ a ∈ l, ∀ b ∈ l, key a = key b → a = b) :
    (l.mergeSort fun a b => (compareTextLists (key a) (key b)).isLE).filter keep =
      (l.filter keep).mergeSort fun a b => (compareTextLists (key a) (key b)).isLE := by
  rw [← List.mergeSort_of_pairwise ((pairwise_mergeSort key l).filter keep)]
  refine mergeSort_eq_of_perm ((List.mergeSort_perm l _).filter keep) fun a ha b hb => ?_
  rw [List.mem_filter, List.mem_mergeSort] at ha hb
  exact hkey a ha.1 b hb.1

/-- Sorting gives an ascending list. -/
theorem pairwise_lt_mergeSort {key : α → List String} (hnodup : l.Nodup)
    (hkey : ∀ a ∈ l, ∀ b ∈ l, key a = key b → a = b) :
    (l.mergeSort fun a b => (compareTextLists (key a) (key b)).isLE).Pairwise
      fun a b => key a < key b := by
  have hsorted : (l.mergeSort fun a b => (compareTextLists (key a) (key b)).isLE).Nodup :=
    (List.mergeSort_perm _ _).nodup_iff.mpr hnodup
  refine ((pairwise_mergeSort key l).and hsorted).imp_of_mem fun ha hb hab => ?_
  rw [← compareTextLists_eq_lt]
  refine (Ordering.isLE_iff_eq_lt_or_eq_eq.mp hab.1).resolve_right fun heq => hab.2 ?_
  exact hkey _ (List.mem_mergeSort.mp ha) _ (List.mem_mergeSort.mp hb)
    (Std.LawfulEqCmp.eq_of_compare heq)

end TestSkeleton.Text
