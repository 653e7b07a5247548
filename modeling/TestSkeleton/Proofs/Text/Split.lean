import Mathlib.Data.List.Basic
import Mathlib.Data.List.Infix
import Mathlib.Data.List.TakeWhile
import TestSkeleton.Text.Split

/-!
# Laws of splitting

A text is its pieces with the separator between them, so texts with equal pieces are equal. Pieces
are found on both sides of a separator independently, and what follows a text without a separator in
it belongs to the last piece. The last piece is what stands after the last separator. A beginning or
an ending can be taken away from the texts that have it.
-/

namespace TestSkeleton.Text

/-! ### Pieces of characters -/

/-- No piece has the separator in it. -/
theorem not_mem_of_mem_splitOn {sep : Char} {xs piece : List Char}
    (h : piece ∈ xs.splitOn sep) : sep ∉ piece := by
  induction xs generalizing piece with
  | nil =>
    rw [List.splitOn_nil, List.mem_singleton] at h
    simp [h]
  | cons x xs ih =>
    rw [List.splitOn_cons_eq_if_modifyHead] at h
    split at h
    · rcases List.mem_cons.mp h with rfl | h
      · exact List.not_mem_nil
      · exact ih h
    · next hx =>
      obtain ⟨first, rest, hxs⟩ := List.exists_cons_of_ne_nil (List.splitOn_ne_nil sep xs)
      rw [hxs] at ih h
      rcases List.mem_cons.mp h with rfl | h
      · rw [List.mem_cons, not_or]
        exact ⟨fun he => hx (beq_iff_eq.mpr he.symm), ih (by simp)⟩
      · exact ih (List.mem_cons_of_mem _ h)

/-- What is added without a separator goes to the last piece. -/
theorem splitOn_append_of_not_mem {sep : Char} {xs ys last : List Char} {init : List (List Char)}
    (h : xs.splitOn sep = init ++ [last]) (hys : sep ∉ ys) :
    (xs ++ ys).splitOn sep = init ++ [last ++ ys] := by
  induction xs generalizing init last with
  | nil =>
    rw [List.splitOn_nil, ← List.nil_append [[]]] at h
    obtain ⟨rfl, hlast⟩ := List.append_inj' h rfl
    obtain rfl := List.singleton_inj.mp hlast
    exact List.splitOn_eq_singleton hys
  | cons x xs ih =>
    obtain ⟨init', last', h'⟩ := List.eq_nil_or_concat' (xs.splitOn sep) |>.resolve_left
      (List.splitOn_ne_nil sep xs)
    rw [List.splitOn_cons_eq_if_modifyHead, h'] at h
    rw [List.cons_append, List.splitOn_cons_eq_if_modifyHead, ih h']
    by_cases hx : (x == sep) = true
    · rw [if_pos hx, ← List.cons_append] at h
      obtain ⟨rfl, hlast⟩ := List.append_inj' h rfl
      rw [if_pos hx, List.singleton_inj.mp hlast]
      rfl
    · -- the new character joins the first piece, which is the last one if there is no other
      rw [if_neg hx] at h ⊢
      cases init' with
      | nil =>
        rw [List.nil_append, List.modifyHead_cons, ← List.nil_append [x :: last']] at h
        obtain ⟨rfl, hlast⟩ := List.append_inj' h rfl
        rw [← List.singleton_inj.mp hlast]
        rfl
      | cons p init' =>
        rw [List.cons_append, List.modifyHead_cons, ← List.cons_append] at h
        obtain ⟨rfl, hlast⟩ := List.append_inj' h rfl
        rw [List.singleton_inj.mp hlast]
        rfl

/-- Replacing a separator by a character that does not occur keeps the pieces. -/
theorem splitOn_flatMap_replace {sep new : Char} {xs : List Char} (h : new ∉ xs) :
    (xs.flatMap fun x => if x = sep then [new] else [x]).splitOn new = xs.splitOn sep := by
  induction xs with
  | nil => rfl
  | cons x xs ih =>
    rw [List.mem_cons, not_or] at h
    rw [List.flatMap_cons, List.splitOn_cons_eq_if_modifyHead]
    by_cases hx : x = sep
    · rw [if_pos hx, List.singleton_append, List.splitOn_cons_eq_if_modifyHead, ih h.2,
        if_pos (BEq.refl new), if_pos (beq_iff_eq.mpr hx)]
    · have hne : ¬ (x == new) = true := fun he => h.1 (beq_iff_eq.mp he).symm
      rw [if_neg hx, List.singleton_append, List.splitOn_cons_eq_if_modifyHead, ih h.2,
        if_neg hne, if_neg fun he => hx (beq_iff_eq.mp he)]

/-- What is in joined pieces and not in the separator is in one of the pieces. -/
theorem mem_intercalate_iff {α : Type} {x : α} {sep : List α} (h : x ∉ sep)
    (parts : List (List α)) : x ∈ sep.intercalate parts ↔ ∃ part ∈ parts, x ∈ part := by
  induction parts with
  | nil => simp
  | cons part parts ih =>
    cases parts with
    | nil => simp
    | cons next parts =>
      rw [List.intercalate_cons_cons, List.mem_append, List.mem_append, ih]
      simp [h]

/-- A character of a piece is one of those that are cut. -/
theorem mem_of_mem_splitOn {sep x : Char} {xs piece : List Char} (h : piece ∈ xs.splitOn sep)
    (hx : x ∈ piece) : x ∈ xs := by
  have hne : x ∉ [sep] := by
    rw [List.mem_singleton]
    rintro rfl
    exact not_mem_of_mem_splitOn h hx
  have hmem : x ∈ [sep].intercalate (xs.splitOn sep) :=
    (mem_intercalate_iff hne _).mpr ⟨piece, h, hx⟩
  rwa [List.intercalate_splitOn] at hmem

/-- Pieces with another separator between them are what replacing the separator gives. -/
theorem intercalate_splitOn_flatMap (sep : Char) (new xs : List Char) :
    new.intercalate (xs.splitOn sep) = xs.flatMap fun x => if x = sep then new else [x] := by
  induction xs with
  | nil => rw [List.splitOn_nil, List.intercalate_singleton, List.flatMap_nil]
  | cons x xs ih =>
    obtain ⟨first, rest, hxs⟩ := List.exists_cons_of_ne_nil (List.splitOn_ne_nil sep xs)
    rw [List.splitOn_cons_eq_if_modifyHead, List.flatMap_cons, ← ih, hxs]
    by_cases hx : x = sep
    · rw [if_pos (beq_iff_eq.mpr hx), if_pos hx, List.intercalate_cons_cons, List.nil_append]
    · rw [if_neg fun he => hx (beq_iff_eq.mp he), if_neg hx, List.modifyHead_cons]
      -- the character joins the first piece, whatever follows it
      cases rest with
      | nil => rw [List.intercalate_singleton, List.intercalate_singleton, List.singleton_append]
      | cons next rest =>
        rw [List.intercalate_cons_cons, List.intercalate_cons_cons, List.singleton_append,
          List.cons_append, List.cons_append]

/-! ### Pieces of texts -/

/-- Splitting a text splits its characters. -/
theorem map_toList_splitOn (sep : Char) (s : String) :
    (splitOn sep s).map String.toList = s.toList.splitOn sep := by
  simp [splitOn, Function.comp_def]

/-- No piece of a text has the separator in it. -/
theorem not_mem_of_mem_splitOn_text {sep : Char} {s piece : String} (h : piece ∈ splitOn sep s) :
    sep ∉ piece.toList := by
  have hpiece : piece.toList ∈ s.toList.splitOn sep :=
    map_toList_splitOn sep s ▸ List.mem_map_of_mem h
  exact not_mem_of_mem_splitOn hpiece

/-- Pieces on both sides of a separator. -/
theorem splitOn_append (sep : Char) (s t : String) :
    splitOn sep (s ++ String.singleton sep ++ t) = splitOn sep s ++ splitOn sep t := by
  simp [splitOn, String.toList_append, List.splitOn_append_cons_self]

/-- A text is its pieces with the separator between them. -/
theorem intercalate_splitOn (sep : Char) (s : String) :
    (String.singleton sep).intercalate (splitOn sep s) = s := by
  apply String.toList_inj.mp
  rw [String.toList_intercalate, map_toList_splitOn, String.toList_singleton,
    List.intercalate_splitOn]

/-- A text with its separators replaced is its pieces with the replacement between them. -/
theorem intercalate_splitOn_replaceChar (sep : Char) (new s : String) :
    new.intercalate (splitOn sep s) = replaceChar sep new s := by
  apply String.toList_inj.mp
  rw [String.toList_intercalate, map_toList_splitOn, intercalate_splitOn_flatMap, replaceChar,
    String.toList_ofList]

/-- A separator that is replaced by itself stays. -/
theorem replaceChar_singleton (c : Char) (s : String) :
    replaceChar c (String.singleton c) s = s := by
  rw [← intercalate_splitOn_replaceChar, intercalate_splitOn]

/-- Texts are equal where their pieces are. -/
theorem splitOn_injective {sep : Char} {s t : String} (h : splitOn sep s = splitOn sep t) :
    s = t := by
  rw [← intercalate_splitOn sep s, h, intercalate_splitOn]

/-- There is a last piece. -/
theorem exists_splitOn_eq (sep : Char) (s : String) :
    ∃ init last, splitOn sep s = init ++ [last] := by
  rcases List.eq_nil_or_concat' (splitOn sep s) with h | h
  · have := congrArg (List.map String.toList) h
    rw [map_toList_splitOn] at this
    exact absurd this (List.splitOn_ne_nil sep s.toList)
  · exact h

/-! ### Before and after the last separator -/

/-- What is after the last separator is an end of the text. -/
theorem afterLast_suffix (sep : Char) (s : String) : (afterLast sep s).toList <:+ s.toList := by
  rw [afterLast, String.toList_ofList, ← List.reverse_prefix, List.reverse_reverse]
  exact List.takeWhile_prefix _

/-- What is before the last separator is a beginning of the text. -/
theorem beforeLast_isPrefix (sep : Char) (s : String) : (beforeLast sep s).toList <+: s.toList := by
  rw [beforeLast, String.toList_ofList, ← List.reverse_suffix, List.reverse_reverse]
  exact (List.tail_suffix _).trans (List.dropWhile_suffix _)

private theorem ne_of_not_mem {sep : Char} {s : String} (h : sep ∉ s.toList) :
    ∀ c ∈ s.toList.reverse, decide (c ≠ sep) = true := by
  intro c hc
  apply decide_eq_true
  rintro rfl
  exact h (List.mem_reverse.mp hc)

/-- The whole text is after the last separator exactly if there is none. -/
theorem afterLast_eq_self_iff {sep : Char} {s : String} :
    afterLast sep s = s ↔ sep ∉ s.toList := by
  constructor
  · intro h hmem
    rw [afterLast, ← String.toList_inj, String.toList_ofList, List.reverse_eq_iff,
      List.takeWhile_eq_self_iff] at h
    exact absurd rfl (of_decide_eq_true (h sep (List.mem_reverse.mpr hmem)))
  · intro h
    rw [afterLast, List.takeWhile_eq_self_iff.mpr (ne_of_not_mem h), List.reverse_reverse,
      String.ofList_toList]

/-- What is added without a separator stands after the last one. -/
theorem afterLast_append_of_not_mem {sep : Char} {s t : String} (h : sep ∉ t.toList) :
    afterLast sep (s ++ t) = afterLast sep s ++ t := by
  rw [afterLast, String.toList_append, List.reverse_append,
    List.takeWhile_append_of_pos (ne_of_not_mem h), List.reverse_append, List.reverse_reverse,
    String.ofList_append, String.ofList_toList, afterLast]

private theorem beforeLast_of_not_mem {sep : Char} {s : String} (h : sep ∉ s.toList) :
    beforeLast sep s = "" := by
  rw [beforeLast, List.dropWhile_eq_nil_iff.mpr (ne_of_not_mem h)]
  rfl

private theorem around_last (s : String) {sep : Char} {t : String} (h : sep ∉ t.toList) :
    beforeLast sep (s ++ String.singleton sep ++ t) = s ∧
      afterLast sep (s ++ String.singleton sep ++ t) = t := by
  have hreverse : (s ++ String.singleton sep ++ t).toList.reverse =
      t.toList.reverse ++ sep :: s.toList.reverse := by
    simp [String.toList_append]
  rw [beforeLast, afterLast, hreverse, List.dropWhile_append_of_pos (ne_of_not_mem h),
    List.takeWhile_append_of_pos (ne_of_not_mem h)]
  simp

/-- Before the last separator are all pieces but the last one, which is after it. -/
theorem around_last_of_splitOn {sep : Char} {s last : String} {init : List String}
    (h : splitOn sep s = init ++ [last]) :
    beforeLast sep s = (String.singleton sep).intercalate init ∧ afterLast sep s = last := by
  have hlast : sep ∉ last.toList := not_mem_of_mem_splitOn_text (h ▸ List.mem_append_right _
    List.mem_cons_self)
  have hs := intercalate_splitOn sep s
  rw [h] at hs
  by_cases hinit : init = []
  · subst hinit
    rw [List.nil_append, String.intercalate_singleton] at hs
    subst hs
    exact ⟨beforeLast_of_not_mem hlast, afterLast_eq_self_iff.mpr hlast⟩
  · rw [String.intercalate_append_of_ne_nil hinit (List.cons_ne_nil _ _),
      String.intercalate_singleton] at hs
    rw [← hs]
    exact around_last _ hlast

/-- After one separator has been replaced by another one, what is after the last of them was after
the last of both. -/
theorem afterLast_replaceChar (old new : Char) (s : String) :
    afterLast new (replaceChar old (String.singleton new) s) = afterLast new (afterLast old s) := by
  have hmap : (replaceChar old (String.singleton new) s).toList =
      s.toList.map fun x => if x = old then new else x := by
    rw [replaceChar, String.toList_ofList, String.toList_singleton, List.map_eq_flatMap]
    congr 1
    funext x
    split <;> rfl
  have htest : ((fun x => decide (x ≠ new)) ∘ fun x => if x = old then new else x) =
      fun x => decide (decide (x ≠ new) = true ∧ decide (x ≠ old) = true) := by
    funext x
    by_cases hx : x = old <;> simp [hx]
  rw [afterLast, afterLast, afterLast, hmap, String.toList_ofList, ← List.map_reverse,
    List.takeWhile_map, htest, List.reverse_reverse, ← List.takeWhile_takeWhile]
  -- what is left has no old separator in it that would be replaced
  have hkept : ∀ x ∈ (s.toList.reverse.takeWhile fun x => decide (x ≠ old)).takeWhile
      fun x => decide (x ≠ new), (if x = old then new else x) = x := by
    intro x hx
    have hold := List.mem_takeWhile_imp ((List.takeWhile_prefix _).subset hx)
    exact if_neg (of_decide_eq_true hold)
  rw [List.map_congr_left hkept, List.map_id']

/-! ### Beginnings and endings -/

/-- One repetition more comes at the end. -/
theorem join_replicate_succ (word : String) (n : Nat) :
    String.join (List.replicate (n + 1) word) = String.join (List.replicate n word) ++ word := by
  rw [List.replicate_succ', String.join_append]
  simp

/-- A beginning that is taken away is what the text starts with. -/
theorem stripStart?_eq_some {start s t : String} : stripStart? start s = some t ↔ s = start ++ t := by
  rw [stripStart?]
  split
  · next h =>
    obtain ⟨rest, hrest⟩ := List.isPrefixOf_iff_prefix.mp h
    have hdrop : s.toList.drop start.length = rest := by
      rw [← hrest, ← String.length_toList, List.drop_left]
    rw [hdrop, Option.some.injEq, ← String.toList_inj, ← String.toList_inj, String.toList_append,
      ← hrest, String.toList_ofList, List.append_cancel_left_eq]
  · next h =>
    refine iff_of_false nofun ?_
    rintro rfl
    exact h (List.isPrefixOf_iff_prefix.mpr (by simp))

/-- A beginning is taken away in the same way whatever follows the text, unless the text stops
within the beginning and what follows goes on with it. -/
theorem stripStart?_append {start s rest : String}
    (h : ∀ after, start.toList = s.toList ++ after → after <+: rest.toList → after = []) :
    stripStart? start (s ++ rest) = (stripStart? start s).map (· ++ rest) := by
  cases hstrip : stripStart? start s with
  | some t =>
    rw [Option.map_some, stripStart?_eq_some, stripStart?_eq_some.mp hstrip, String.append_assoc]
  | none =>
    refine Option.eq_none_iff_forall_ne_some.mpr fun t ht => ?_
    have hnone (after : String) : s ≠ start ++ after := fun hs => by
      rw [stripStart?_eq_some.mpr hs] at hstrip
      cases hstrip
    have hlist := congrArg String.toList (stripStart?_eq_some.mp ht)
    rw [String.toList_append, String.toList_append, List.append_eq_append_iff] at hlist
    rcases hlist with ⟨after, hstart, hafter⟩ | ⟨after, hstart, -⟩
    · obtain rfl := h after hstart ⟨_, hafter.symm⟩
      refine hnone "" ?_
      rw [String.append_empty, ← String.toList_inj, hstart, List.append_nil]
    · refine hnone (String.ofList after) ?_
      rw [← String.toList_inj, hstart]
      simp

/-- An ending that is taken away is what the text ends with. -/
theorem stripEnd?_eq_some {ending s t : String} : stripEnd? ending s = some t ↔ s = t ++ ending := by
  rw [stripEnd?]
  split
  · next h =>
    obtain ⟨rest, hrest⟩ := List.isSuffixOf_iff_suffix.mp h
    have htake : s.toList.take (s.length - ending.length) = rest := by
      rw [← hrest, ← String.length_toList, ← hrest, List.length_append, String.length_toList,
        Nat.add_sub_cancel, List.take_left]
    rw [htake, Option.some.injEq, ← String.toList_inj, ← String.toList_inj, String.toList_append,
      ← hrest, String.toList_ofList, List.append_cancel_right_eq]
  · next h =>
    refine iff_of_false nofun ?_
    rintro rfl
    exact h (List.isSuffixOf_iff_suffix.mpr (by simp))

/-- An ending cannot be taken from a text exactly when the text does not end in it. -/
theorem stripEnd?_eq_none {ending s : String} : stripEnd? ending s = none ↔ ∀ t, s ≠ t ++ ending := by
  simp only [Option.eq_none_iff_forall_ne_some, ne_eq, stripEnd?_eq_some]

/-- A text with another last character does not have the ending. -/
theorem stripEnd?_of_getLast?_ne {ending s : String} (hne : ending ≠ "")
    (h : s.toList.getLast? ≠ ending.toList.getLast?) : stripEnd? ending s = none := by
  refine stripEnd?_eq_none.mpr ?_
  rintro t rfl
  have hending : ending.toList ≠ [] := fun hnil => hne (String.toList_eq_nil_iff.mp hnil)
  exact h (by rw [String.toList_append, List.getLast?_append_of_ne_nil _ hending])

end TestSkeleton.Text
