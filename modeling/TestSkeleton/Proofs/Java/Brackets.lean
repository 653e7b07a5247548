import Mathlib.Data.List.DropRight
import Mathlib.Data.List.Induction
import TestSkeleton.Java.Sample
import TestSkeleton.Proofs.Text.Split

/-!
# Brackets behind an element type

Pairs of brackets with blanks before them, the dots of variable arguments, and blanks around all of
it. The shape of a text is that of its brackets, taken pair by pair. However brackets and dots are
written behind an element type, it is found again with the number of dimensions, and dots are read
as one more pair of brackets.
-/

namespace TestSkeleton.Java

open Text

/-! ### Blanks around a text -/

/-- A text of white space alone. -/
def IsBlank (s : String) : Prop := ∀ c ∈ s.toList, isBlank c = true

instance (s : String) : Decidable (IsBlank s) := List.decidableBAll _ _

/-- Blanks in front of a character that is none are dropped, and no more. -/
theorem dropBlanks_append {xs ys : List Char} (hxs : ∀ x ∈ xs, isBlank x = true)
    (hys : ∀ y ∈ ys.head?, isBlank y = false) : dropBlanks (xs ++ ys) = ys := by
  rw [dropBlanks, List.dropWhile_append_of_pos hxs]
  cases ys with
  | nil => rfl
  | cons y ys => exact List.dropWhile_cons_of_neg (by simp [hys y rfl])

/-- A text between characters that are no blanks. -/
structure IsSolid (s : String) : Prop where
  head : ∃ x ∈ s.toList.head?, isBlank x = false
  last : ∃ x ∈ s.toList.getLast?, isBlank x = false

/-- The blanks around a text are trimmed, and no more. -/
theorem IsSolid.trim_eq {before s after : String} (hs : IsSolid s) (hbefore : IsBlank before)
    (hafter : IsBlank after) : trim (before ++ s ++ after) = s := by
  obtain ⟨x, hx, hblank⟩ := hs.head
  obtain ⟨y, hy, hblank'⟩ := hs.last
  have hstart : dropBlanks (before ++ s ++ after).toList = s.toList ++ after.toList := by
    rw [String.toList_append, String.toList_append, List.append_assoc]
    refine dropBlanks_append hbefore fun z hz => ?_
    rw [List.head?_append, hx, Option.some_or, Option.mem_some] at hz
    rwa [← hz]
  have hend : dropBlanks (s.toList ++ after.toList).reverse = s.toList.reverse := by
    rw [List.reverse_append]
    refine dropBlanks_append (fun z hz => hafter z (List.mem_reverse.mp hz)) fun z hz => ?_
    rw [List.head?_reverse, hy, Option.mem_some] at hz
    rwa [← hz]
  rw [← String.toList_inj, toList_trim, hstart, dropBlanksRight, ← dropBlanks, hend,
    List.reverse_reverse]

private theorem dropBlanks_append_of_head {xs ys : List Char}
    (h : ∃ y ∈ ys.head?, isBlank y = false) : dropBlanks (xs ++ ys) = dropBlanks xs ++ ys := by
  obtain ⟨y, hy, hblank⟩ := h
  cases ys with
  | nil => cases hy
  | cons x ys =>
    obtain rfl := Option.some.inj hy
    have hys : dropBlanks (x :: ys) = x :: ys :=
      List.dropWhile_cons_of_neg (by rw [hblank]; exact Bool.false_ne_true)
    rw [dropBlanks, List.dropWhile_append, ← dropBlanks, ← dropBlanks, hys]
    split
    · next hnil => rw [List.isEmpty_iff.mp hnil, List.nil_append]
    · rfl

/-- A text without the blanks at its start. -/
def trimLeft (s : String) : String := String.ofList (dropBlanks s.toList)

/-- Trimming is trimming the left end and then the right one. -/
theorem trim_eq_trimRight_trimLeft (s : String) : trim s = trimRight (trimLeft s) := by
  simp [trim, trimRight, trimLeft]

/-- Trimming the left end takes blanks away in front. -/
theorem exists_eq_append_trimLeft (s : String) :
    ∃ before, IsBlank before ∧ s = before ++ trimLeft s := by
  refine ⟨String.ofList (s.toList.takeWhile isBlank), fun c hc => ?_, ?_⟩
  · rw [String.toList_ofList] at hc
    exact List.mem_takeWhile_imp hc
  · rw [trimLeft, ← String.ofList_append, dropBlanks, List.takeWhile_append_dropWhile,
      String.ofList_toList]

/-- Trimming the right end takes blanks away at the end. -/
theorem exists_eq_trimRight_append (s : String) :
    ∃ after, IsBlank after ∧ s = trimRight s ++ after := by
  refine ⟨String.ofList (s.toList.reverse.takeWhile isBlank).reverse, fun c hc => ?_, ?_⟩
  · rw [String.toList_ofList, List.mem_reverse] at hc
    exact List.mem_takeWhile_imp hc
  · rw [trimRight, ← String.ofList_append, dropBlanksRight, ← List.reverse_append,
      List.takeWhile_append_dropWhile, List.reverse_reverse, String.ofList_toList]

/-- Nothing is left but for blanks. -/
theorem trimLeft_eq_empty_iff {s : String} : trimLeft s = "" ↔ IsBlank s := by
  rw [← String.toList_inj, trimLeft, String.toList_ofList, dropBlanks]
  exact List.dropWhile_eq_nil_iff

/-- Nothing is trimmed at the end exactly if no blank is there. -/
theorem trimRight_eq_self_iff {s : String} :
    trimRight s = s ↔ ∀ c ∈ s.toList.getLast?, isBlank c = false := by
  rw [← String.toList_inj, toList_trimRight, dropBlanksRight, List.reverse_eq_iff,
    List.dropWhile_eq_self_iff, ← List.head?_reverse]
  cases s.toList.reverse with
  | nil => simp
  | cons x xs => simp

/-- Blanks at the end of a text are trimmed together. -/
theorem trimRight_append {after : String} (hafter : IsBlank after) (s : String) :
    trimRight (s ++ after) = trimRight s := by
  have hreverse : ∀ x ∈ after.toList.reverse, isBlank x = true :=
    fun x hx => hafter x (List.mem_reverse.mp hx)
  rw [← String.toList_inj, toList_trimRight, toList_trimRight, String.toList_append,
    dropBlanksRight, List.reverse_append, List.dropWhile_append_of_pos hreverse, dropBlanksRight]

/-- Trimming takes the left end in. -/
theorem trim_trimLeft (s : String) : trim (trimLeft s) = trim s := by
  rw [trim_eq_trimRight_trimLeft, trim_eq_trimRight_trimLeft, trimLeft, trimLeft,
    String.toList_ofList, dropBlanks, dropBlanks, List.dropWhile_idempotent]

/-- Trimming takes the right end in. -/
theorem trim_trimRight (s : String) : trim (trimRight s) = trim s := by
  obtain ⟨after, hafter, hs⟩ := exists_eq_trimRight_append s
  generalize trimRight s = t at hs ⊢
  subst hs
  have hnil : after.toList.dropWhile isBlank = [] := List.dropWhile_eq_nil_iff.mpr hafter
  rw [trim_eq_trimRight_trimLeft, trim_eq_trimRight_trimLeft, trimLeft, trimLeft,
    String.toList_append, dropBlanks, dropBlanks, List.dropWhile_append]
  split
  · next hempty => rw [hnil, List.isEmpty_iff.mp hempty]
  · rw [String.ofList_append, String.ofList_toList, trimRight_append hafter]

/-- A trimmed text is trimmed. -/
theorem trim_trim (s : String) : trim (trim s) = trim s := by
  rw [trim_eq_trimRight_trimLeft s, trim_trimRight, trim_trimLeft, trim_eq_trimRight_trimLeft]

/-- A text that is not changed by trimming is not changed at its start. -/
theorem trimLeft_of_trim_eq {s : String} (h : trim s = s) : trimLeft s = s := by
  obtain ⟨before, -, hbefore⟩ := exists_eq_append_trimLeft s
  obtain ⟨after, -, hafter⟩ := exists_eq_trimRight_append (trimLeft s)
  rw [← trim_eq_trimRight_trimLeft, h] at hafter
  have hlength := congrArg String.length hbefore
  have hlength' := congrArg String.length hafter
  rw [String.length_append] at hlength hlength'
  have hempty : after.length = 0 := by omega
  rwa [String.length_eq_zero_iff.mp hempty, String.append_empty] at hafter

/-- Blanks at the start are trimmed up to a character that is none, whatever follows it. -/
theorem trimLeft_append {s t : String} (h : ∃ x ∈ t.toList.head?, isBlank x = false) :
    trimLeft (s ++ t) = trimLeft s ++ t := by
  rw [trimLeft, String.toList_append, dropBlanks_append_of_head h, String.ofList_append,
    String.ofList_toList, trimLeft]

/-- Only the start of a text is trimmed exactly if no blank ends it or all of it is trimmed. -/
theorem trim_eq_trimLeft_iff {s : String} :
    trim s = trimLeft s ↔ IsBlank s ∨ ∀ c ∈ s.toList.getLast?, isBlank c = false := by
  rw [trim_eq_trimRight_trimLeft, trimRight_eq_self_iff, ← trimLeft_eq_empty_iff]
  obtain ⟨before, -, hs⟩ := exists_eq_append_trimLeft s
  generalize trimLeft s = t at hs ⊢
  subst hs
  cases ht : t.toList.getLast? with
  | none =>
    rw [List.getLast?_eq_none_iff, String.toList_eq_nil_iff] at ht
    simp [ht]
  | some x =>
    have hne : t ≠ "" := by
      rintro rfl
      cases ht
    rw [String.toList_append, List.getLast?_append, ht, Option.some_or]
    simp [hne]

/-- In front of an ending without blanks only the start of a text is trimmed. -/
theorem IsSolid.trim_append {ending : String} (hs : IsSolid ending) (s : String) :
    trim (s ++ ending) = trimLeft s ++ ending := by
  rw [trim_eq_trimRight_trimLeft, trimLeft_append hs.head, trimRight_eq_self_iff]
  obtain ⟨y, hy, hblank⟩ := hs.last
  intro c hc
  rw [String.toList_append, List.getLast?_append, hy, Option.some_or, Option.mem_some] at hc
  rwa [← hc]

namespace TypeText

/-! ### Generic arguments -/

/-- Nothing after type arguments outlasts erasure. -/
theorem erase_append_of_mem {s : String} (h : '<' ∈ s.toList) (t : String) :
    erase (s ++ t) = erase s := by
  obtain ⟨before, after, hs⟩ := List.append_of_mem h
  rw [← String.toList_inj, toList_erase, toList_erase, String.toList_append, hs, List.append_assoc,
    List.cons_append, List.takeWhile_append, List.takeWhile_append]
  simp

/-- Generic arguments and all behind them are erased. -/
theorem erase_append_arguments {s : String} (h : '<' ∉ s.toList) (t : String) :
    erase (s ++ ("<" ++ t)) = s := by
  have hs : ∀ c ∈ s.toList, decide (c ≠ '<') = true := by
    intro c hc
    apply decide_eq_true
    rintro rfl
    exact h hc
  rw [← String.toList_inj, toList_erase, String.toList_append, List.takeWhile_append_of_pos hs]
  simp

/-- A text without type arguments is its own erasure. -/
theorem erase_of_not_mem {s : String} (h : '<' ∉ s.toList) : erase s = s := by
  rw [← String.toList_inj, toList_erase, List.takeWhile_eq_self_iff]
  intro c hc
  apply decide_eq_true
  rintro rfl
  exact h hc

/-! ### Shapes -/

/-- The shape with one dimension more. -/
def ArrayShape.succ (shape : ArrayShape) : ArrayShape := { shape with dims := shape.dims + 1 }

/-- Shapes with one more dimension differ where the shapes do. -/
theorem ArrayShape.succ_inj {shape shape' : ArrayShape} :
    shape.succ = shape'.succ ↔ shape = shape' := by
  cases shape
  cases shape'
  simp [succ]

/-- The shape of a text with brackets alone at its end. -/
def bracketShape (s : String) : ArrayShape where
  element := String.ofList (takeBrackets s.toList.reverse).1.reverse
  dims := (takeBrackets s.toList.reverse).2

/-- One pair of brackets is one dimension, with the blanks before it. -/
theorem bracketShape_append (s : String) :
    bracketShape (s ++ "[]") = (bracketShape (trimRight s)).succ := by
  have hreverse : (s ++ "[]").toList.reverse = ']' :: '[' :: s.toList.reverse := by simp
  have htrim : (trimRight s).toList.reverse = dropBlanks s.toList.reverse := by
    rw [toList_trimRight, dropBlanksRight, List.reverse_reverse, dropBlanks]
  rw [bracketShape, bracketShape, hreverse, htrim, takeBrackets, ArrayShape.succ]

/-- A text that does not end with brackets has no dimension. -/
theorem bracketShape_of_forall_ne {s : String} (h : ∀ base, s ≠ base ++ "[]") :
    bracketShape s = ⟨s, 0⟩ := by
  have hnone : takeBrackets s.toList.reverse = (s.toList.reverse, 0) := by
    rw [takeBrackets.eq_def]
    split
    · next rest hreverse =>
      refine absurd ?_ (h (String.ofList rest.reverse))
      rw [← String.toList_inj, ← List.reverse_inj, hreverse]
      simp
    · rfl
  rw [bracketShape, hnone, List.reverse_reverse, String.ofList_toList]

/-- A text that ends with another character than a bracket has no dimension. -/
theorem bracketShape_of_last {s : String} (h : s.toList.getLast? ≠ some ']') :
    bracketShape s = ⟨s, 0⟩ :=
  bracketShape_of_forall_ne fun base hbase => h (by simp [hbase])

private theorem takeBrackets_append (cs : List Char) :
    ∃ taken, cs = taken ++ (takeBrackets cs).1 ∧ '<' ∉ taken := by
  fun_induction takeBrackets cs with
  | case1 rest inner ih =>
    obtain ⟨taken, hdropped, hnot⟩ := ih
    refine ⟨']' :: '[' :: (rest.takeWhile isBlank ++ taken), ?_, ?_⟩
    · rw [List.cons_append, List.cons_append, List.append_assoc, ← hdropped, dropBlanks,
        List.takeWhile_append_dropWhile]
    · have hblank : '<' ∉ rest.takeWhile isBlank := fun hmem =>
        absurd (List.mem_takeWhile_imp hmem) (by decide)
      simp [hblank, hnot]
  | case2 cs => exact ⟨[], rfl, List.not_mem_nil⟩

/-- The element type is what a text starts with; its generic arguments stay with it. -/
theorem exists_eq_element_append (s : String) :
    ∃ rest, s = (bracketShape s).element ++ rest ∧ '<' ∉ rest.toList := by
  obtain ⟨taken, htaken, hnot⟩ := takeBrackets_append s.toList.reverse
  refine ⟨String.ofList taken.reverse, ?_, by simpa using hnot⟩
  rw [List.reverse_eq_iff, List.reverse_append] at htaken
  rw [bracketShape, ← String.ofList_append, ← htaken, String.ofList_toList]

/-- Generic arguments are those of the element type. -/
theorem erase_element_of_mem {s : String} (h : '<' ∈ s.toList) :
    erase (bracketShape s).element = erase s := by
  obtain ⟨rest, hs, hnot⟩ := exists_eq_element_append s
  have hmem : '<' ∈ (bracketShape s).element.toList := by
    rw [hs, String.toList_append, List.mem_append] at h
    exact h.resolve_right hnot
  rw [← erase_append_of_mem hmem rest, ← hs]

/-- Dots are one dimension, and what stands before them has the others. -/
theorem arrayShape_of_dots {type base : String} (h : trim type = base ++ "...") :
    arrayShape type = (bracketShape base).succ := by
  rw [arrayShape, stripEnd?_eq_some.mpr h]
  simp only [bracketShape, ArrayShape.succ, Nat.add_comm]

/-- Without dots at the end the dimensions are the brackets. -/
theorem arrayShape_of_not_dots {type : String} (h : stripEnd? "..." (trim type) = none) :
    arrayShape type = bracketShape (trim type) := by
  rw [arrayShape, h]
  simp only [bracketShape, Nat.zero_add]

private theorem isSolid_brackets : IsSolid "[]" := ⟨⟨'[', rfl, by decide⟩, ⟨']', rfl, by decide⟩⟩

/-- Brackets behind a text are one dimension more, whatever blanks are around the text. -/
theorem bracketShape_trim_append (t : String) :
    bracketShape (trim (t ++ "[]")) = (bracketShape (trim t)).succ := by
  rw [isSolid_brackets.trim_append, bracketShape_append, trim_eq_trimRight_trimLeft]

/-- Brackets behind a text: the dimensions that it has itself and one more. -/
theorem arrayShape_append_brackets (t : String) :
    arrayShape (t ++ "[]") = (bracketShape (trim t)).succ := by
  have hnone : stripEnd? "..." (trim (t ++ "[]")) = none := by
    rw [isSolid_brackets.trim_append]
    exact stripEnd?_of_getLast?_ne (by decide) (by simp)
  rw [arrayShape_of_not_dots hnone, bracketShape_trim_append]

/-- Several pairs of brackets behind a text are as many dimensions. -/
theorem arrayShape_append_replicate (t : String) (d : Nat) :
    arrayShape (t ++ String.join (List.replicate (d + 1) "[]")) =
      ⟨(bracketShape (trim t)).element, (bracketShape (trim t)).dims + (d + 1)⟩ := by
  have hshape (d : Nat) : bracketShape (trim (t ++ String.join (List.replicate d "[]"))) =
      ⟨(bracketShape (trim t)).element, (bracketShape (trim t)).dims + d⟩ := by
    induction d with
    | zero =>
      have hnone : t ++ String.join (List.replicate 0 "[]") = t := String.append_empty
      rw [hnone, Nat.add_zero]
    | succ d ih =>
      rw [join_replicate_succ, ← String.append_assoc, bracketShape_trim_append, ih]
      rfl
  rw [join_replicate_succ, ← String.append_assoc, arrayShape_append_brackets, hshape]
  rfl

/-- Pairs of brackets behind a text that ends with neither brackets nor a blank. -/
theorem arrayShape_append_replicate_of_ends {s : String} (hbrackets : ∀ base, s ≠ base ++ "[]")
    (hlast : ∀ c ∈ s.toList.getLast?, isBlank c = false) (d : Nat) :
    arrayShape (s ++ String.join (List.replicate (d + 1) "[]")) = ⟨trim s, d + 1⟩ := by
  have hshape : bracketShape (trim s) = ⟨trim s, 0⟩ := by
    refine bracketShape_of_forall_ne fun base hbase => ?_
    obtain ⟨before, -, hs⟩ := exists_eq_append_trimLeft s
    rw [← trim_eq_trimLeft_iff.mpr (.inr hlast), hbase, ← String.append_assoc] at hs
    exact hbrackets _ hs
  rw [arrayShape_append_replicate, hshape, Nat.zero_add]

/-- Dots behind a text: the dimensions that it has with the blanks at its end, and one more. -/
theorem arrayShape_append_dots (t : String) :
    arrayShape (t ++ "...") = (bracketShape (trimLeft t)).succ := by
  have hdots : IsSolid "..." := ⟨⟨'.', rfl, by decide⟩, ⟨'.', rfl, by decide⟩⟩
  exact arrayShape_of_dots (hdots.trim_append t)

end TypeText

/-! ### Brackets -/

/-- Pairs of brackets, each with what stands before it. -/
def brackets (gaps : List String) : String := String.join (gaps.map (· ++ "[]"))

/-- The last pair of brackets stands at the end. -/
theorem brackets_concat (gaps : List String) (gap : String) :
    brackets (gaps ++ [gap]) = brackets gaps ++ (gap ++ "[]") := by
  simp [brackets]

/-- An element type, told from what can follow it: a text between characters that are no blanks, the
last of which is neither a bracket nor a dot. -/
structure IsElement (s : String) : Prop extends IsSolid s where
  ne_of_last : ∀ x ∈ s.toList.getLast?, x ≠ ']' ∧ x ≠ '.'

namespace IsElement

variable {element : String}

private theorem exists_last (h : IsElement element) (gaps : List String) :
    ∃ x ∈ (element ++ brackets gaps).toList.getLast?, isBlank x = false ∧ x ≠ '.' := by
  rcases List.eq_nil_or_concat' gaps with rfl | ⟨init, gap, rfl⟩
  · obtain ⟨x, hx, hblank⟩ := h.last
    refine ⟨x, ?_, hblank, (h.ne_of_last x hx).2⟩
    simpa [brackets] using hx
  · refine ⟨']', ?_, by decide, by decide⟩
    have hbrackets : "[]".toList = ['['] ++ [']'] := rfl
    rw [brackets_concat, String.toList_append, String.toList_append, String.toList_append,
      hbrackets, ← List.append_assoc, ← List.append_assoc, ← List.append_assoc,
      List.getLast?_concat]
    rfl

/-- Brackets are taken away from behind an element type with the blanks before them, up to the
element type. -/
theorem bracketShape_eq (h : IsElement element) {gaps : List String}
    (hgaps : ∀ gap ∈ gaps, IsBlank gap) :
    TypeText.bracketShape (element ++ brackets gaps) = ⟨element, gaps.length⟩ := by
  -- the brackets are taken from the end, so the last pair is the one of the step
  induction gaps using List.reverseRecOn with
  | nil =>
    have hnone : element ++ brackets [] = element := String.append_empty
    rw [hnone, TypeText.bracketShape_of_last fun hlast => (h.ne_of_last ']' hlast).1 rfl,
      List.length_nil]
  | append_singleton gaps gap ih =>
    have htrim : trimRight (element ++ brackets gaps) = element ++ brackets gaps := by
      rw [trimRight_eq_self_iff]
      intro c hc
      obtain ⟨x, hx, hblank, -⟩ := h.exists_last gaps
      rwa [Option.mem_unique hc hx]
    rw [brackets_concat, ← String.append_assoc, ← String.append_assoc, TypeText.bracketShape_append,
      trimRight_append (hgaps gap (by simp)), htrim, ih fun g hg => hgaps g (by simp [hg]),
      List.length_append]
    rfl

end IsElement

/-! ### Dots -/

/-- The dots of variable arguments. -/
def dots (isVarargs : Bool) : String := if isVarargs then "..." else ""

namespace IsElement

variable {element before after : String} {gaps : List String}

/-- With brackets and dots behind it an element type still has no blanks around it. -/
theorem isSolid_append (h : IsElement element) (gaps : List String) (isVarargs : Bool) :
    IsSolid (element ++ brackets gaps ++ dots isVarargs) where
  head := by
    obtain ⟨x, hx, hblank⟩ := h.head
    refine ⟨x, ?_, hblank⟩
    rw [String.toList_append, String.toList_append, List.head?_append, List.head?_append, hx]
    rfl
  last := by
    cases isVarargs with
    | false =>
      obtain ⟨x, hx, hblank, -⟩ := h.exists_last gaps
      exact ⟨x, by simpa [dots] using hx, hblank⟩
    | true => exact ⟨'.', by simp [dots], by decide⟩

private theorem stripEnd?_dots (h : IsElement element) (gaps : List String) (isVarargs : Bool) :
    stripEnd? "..." (element ++ brackets gaps ++ dots isVarargs) =
      if isVarargs then some (element ++ brackets gaps) else none := by
  cases isVarargs with
  | false =>
    obtain ⟨x, hx, -, hdot⟩ := h.exists_last gaps
    refine stripEnd?_of_getLast?_ne (by decide) ?_
    have hnone : element ++ brackets gaps ++ dots false = element ++ brackets gaps :=
      String.append_empty
    rw [hnone, hx]
    simpa using hdot
  | true => exact stripEnd?_eq_some.mpr rfl

/-- The element type and the number of dimensions of an array, however it is written. -/
theorem arrayShape_eq (h : IsElement element) (hgaps : ∀ gap ∈ gaps, IsBlank gap) (isVarargs : Bool)
    (hbefore : IsBlank before) (hafter : IsBlank after) :
    TypeText.arrayShape (before ++ (element ++ brackets gaps ++ dots isVarargs) ++ after) =
      ⟨element, gaps.length + isVarargs.toNat⟩ := by
  have htrim := (h.isSolid_append gaps isVarargs).trim_eq hbefore hafter
  have hdots := h.stripEnd?_dots gaps isVarargs
  cases isVarargs with
  | false =>
    have hnone : element ++ brackets gaps ++ dots false = element ++ brackets gaps :=
      String.append_empty
    rw [TypeText.arrayShape_of_not_dots (by rw [htrim, hdots]; rfl), htrim, hnone,
      h.bracketShape_eq hgaps]
    rfl
  | true =>
    rw [TypeText.arrayShape_of_dots htrim, h.bracketShape_eq hgaps]
    rfl

/-- The shape of an array that is written with brackets alone. -/
theorem arrayShape_brackets (h : IsElement element) (hgaps : ∀ gap ∈ gaps, IsBlank gap) :
    TypeText.arrayShape (element ++ brackets gaps) = ⟨element, gaps.length⟩ := by
  have hempty : IsBlank "" := nofun
  simpa [dots] using h.arrayShape_eq hgaps false hempty hempty

/-- Dots are read as one more pair of brackets. -/
theorem bracketDots_eq (h : IsElement element) (gaps : List String) (isVarargs : Bool) :
    bracketDots (element ++ brackets gaps ++ dots isVarargs) =
      element ++ brackets (gaps ++ List.replicate isVarargs.toNat "") := by
  rw [bracketDots, h.stripEnd?_dots gaps isVarargs]
  cases isVarargs with
  | false => simp [dots]
  | true => simp [brackets_concat, String.append_assoc]

end IsElement

end TestSkeleton.Java
