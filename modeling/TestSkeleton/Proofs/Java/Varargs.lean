import TestSkeleton.Proofs.Java.Brackets
import TestSkeleton.Proofs.Text.FirstLetter

/-!
# Dots of variable arguments

Dots and a pair of brackets behind the same text, which may be any text. Both are one dimension.
The blanks that the text ends with are taken away before brackets and stay before dots, so the two
shapes differ there. Names of tests do not show such blanks, unless there are brackets before them.
-/

namespace TestSkeleton.Java

open Text

namespace TypeText

/-! ### Blanks before the dots -/

/-- A text that ends with a blank does not end with brackets. -/
theorem bracketShape_of_trimRight_ne {s : String} (h : trimRight s ≠ s) :
    bracketShape s = ⟨s, 0⟩ := by
  refine bracketShape_of_last fun hlast => h (trimRight_eq_self_iff.mpr fun c hc => ?_)
  obtain rfl : c = ']' := Option.mem_unique hc hlast
  decide

/-- The blanks that a text ends with are part of its element type, so they show in its shape. -/
theorem bracketShape_eq_trimRight_iff {s : String} :
    bracketShape s = bracketShape (trimRight s) ↔ trimRight s = s := by
  constructor
  · intro h
    by_contra hne
    obtain ⟨after, -, hafter⟩ := exists_eq_trimRight_append s
    obtain ⟨rest, hrest, -⟩ := exists_eq_element_append (trimRight s)
    rw [← h, bracketShape_of_trimRight_ne hne] at hrest
    change trimRight s = s ++ rest at hrest
    have hlength := congrArg String.length hafter
    have hlength' := congrArg String.length hrest
    rw [String.length_append] at hlength hlength'
    have hempty : after.length = 0 := by omega
    rw [String.length_eq_zero_iff.mp hempty, String.append_empty] at hafter
    exact hne hafter.symm
  · intro h
    rw [h]

/-- A text that ends with blanks and has brackets before them. -/
def EndsInSpacedBrackets (t : String) : Prop :=
  ∃ base gap, t = base ++ "[]" ++ gap ∧ IsBlank gap ∧ gap ≠ ""

private theorem endsInSpacedBrackets_iff {t : String} : EndsInSpacedBrackets t ↔
    trimRight (trimLeft t) ≠ trimLeft t ∧ ∃ base, trimRight (trimLeft t) = base ++ "[]" := by
  constructor
  · rintro ⟨base, gap, rfl, hgap, hne⟩
    have hleft : trimLeft (base ++ "[]" ++ gap) = trimLeft base ++ "[]" ++ gap := by
      rw [String.append_assoc, trimLeft_append ⟨'[', by simp, by decide⟩, ← String.append_assoc]
    have hright : trimRight (trimLeft base ++ "[]") = trimLeft base ++ "[]" := by
      rw [trimRight_eq_self_iff]
      intro c hc
      obtain rfl : ']' = c := by simpa using hc
      decide
    rw [hleft, trimRight_append hgap, hright]
    exact ⟨fun h => hne (String.append_eq_left_iff.mp h.symm), trimLeft base, rfl⟩
  · rintro ⟨hne, base, hbase⟩
    obtain ⟨before, -, ht⟩ := exists_eq_append_trimLeft t
    obtain ⟨after, hafter, hs⟩ := exists_eq_trimRight_append (trimLeft t)
    refine ⟨before ++ base, after, ?_, hafter, ?_⟩
    · calc t = before ++ trimLeft t := ht
        _ = before ++ (base ++ "[]" ++ after) := by rw [← hbase, ← hs]
        _ = before ++ base ++ "[]" ++ after := by simp only [String.append_assoc]
    · rintro rfl
      rw [String.append_empty] at hs
      exact hne hs.symm

/-! ### Names -/

/-- The name of the element type, without generic arguments and blanks around it. -/
def ArrayShape.name (shape : ArrayShape) : String := trim (erase shape.element)

/-- The part of a name of a test that stands for a parameter of a shape. -/
def ArrayShape.token (shape : ArrayShape) : String :=
  capitalize (afterLast '.' shape.name) ++ String.join (List.replicate shape.dims "Array")

/-- One more dimension leaves the name of the element. -/
@[simp] theorem ArrayShape.name_succ (shape : ArrayShape) : shape.succ.name = shape.name := rfl

/-- The token of a type is that of its shape. -/
theorem token_eq (type : String) : token type = (arrayShape type).token := rfl

/-- One more dimension adds one word to the token. -/
theorem ArrayShape.token_succ (shape : ArrayShape) :
    shape.succ.token = shape.token ++ "Array" := by
  rw [token, token, name_succ, succ, join_replicate_succ, ← String.append_assoc]

private theorem trim_erase_trimRight (s : String) :
    trim (erase (trimRight s)) = trim (erase s) := by
  obtain ⟨after, hafter, hs⟩ := exists_eq_trimRight_append s
  by_cases hmem : '<' ∈ (trimRight s).toList
  · rw [← erase_append_of_mem hmem after, ← hs]
  · have hmem' : '<' ∉ s.toList := by
      rw [hs, String.toList_append, List.mem_append, not_or]
      exact ⟨hmem, fun h => absurd (hafter _ h) (by decide)⟩
    rw [erase_of_not_mem hmem, erase_of_not_mem hmem', trim_trimRight]

private theorem getLast?_append_arrays (name : String) (dims : Nat) :
    (name ++ String.join (List.replicate (dims + 1) "Array")).toList.getLast? = some 'y' := by
  rw [join_replicate_succ, ← String.append_assoc]
  simp

-- With blanks behind its brackets a text has another part in the name of a test than without them:
-- the brackets are no dimensions there.
private theorem token_ne_of_brackets {t base : String} (hbase : trim t = base ++ "[]") :
    (⟨trimLeft t, 0⟩ : ArrayShape).token ≠ (bracketShape (trim t)).token := by
  have hname : ArrayShape.name ⟨trimLeft t, 0⟩ = trim (erase (trim t)) := by
    rw [trim_eq_trimRight_trimLeft t, trim_erase_trimRight, ArrayShape.name]
  have hdims : (bracketShape (trim t)).dims = (bracketShape (trimRight base)).dims + 1 := by
    rw [hbase, bracketShape_append, ArrayShape.succ]
  have hnone (name : String) : name ++ String.join (List.replicate 0 "Array") = name :=
    String.append_empty
  rw [ArrayShape.token, ArrayShape.token, hname, hdims, hnone]
  intro h
  by_cases hmem : '<' ∈ (trim t).toList
  · -- both have the same name, so there would be no words for dimensions
    rw [ArrayShape.name, erase_element_of_mem hmem] at h
    have hlength := congrArg String.length h
    rw [join_replicate_succ] at hlength
    simp at hlength
  · -- the brackets end the name of the one, and a word for a dimension that of the other
    have hlast := congrArg (·.toList.getLast?) h
    rw [erase_of_not_mem hmem, trim_trim, hbase] at hlast
    simp only [getLast?_append_arrays] at hlast
    have hbrackets : afterLast '.' (base ++ "[]") = afterLast '.' base ++ "[]" :=
      afterLast_append_of_not_mem (by decide)
    rw [hbrackets, getLast?_capitalize (by simp)] at hlast
    simp at hlast

/-- Dots and brackets behind a text give the same part of a name, unless blanks follow brackets at
the end of the text. -/
theorem token_append_dots_eq_iff {t : String} :
    token (t ++ "...") = token (t ++ "[]") ↔ ¬ EndsInSpacedBrackets t := by
  rw [token_eq, token_eq, arrayShape_append_dots, arrayShape_append_brackets,
    ArrayShape.token_succ, ArrayShape.token_succ, String.append_left_inj, endsInSpacedBrackets_iff,
    ← trim_eq_trimRight_trimLeft]
  by_cases hs : trim t = trimLeft t
  · simp [hs]
  · have hblank : trimRight (trimLeft t) ≠ trimLeft t := by
      rwa [← trim_eq_trimRight_trimLeft]
    rw [bracketShape_of_trimRight_ne hblank]
    by_cases hbase : ∃ base, trim t = base ++ "[]"
    · obtain ⟨base, hbase⟩ := hbase
      exact iff_of_false (token_ne_of_brackets hbase) (not_not_intro ⟨hs, base, hbase⟩)
    · refine iff_of_true ?_ fun h => hbase h.2
      rw [bracketShape_of_forall_ne (not_exists.mp hbase), ArrayShape.token, ArrayShape.token,
        ArrayShape.name, ArrayShape.name, trim_eq_trimRight_trimLeft t, trim_erase_trimRight]

/-! ### Brackets and blanks in names -/

private theorem mem_afterLast_of_mem_token {shape : ArrayShape} {c : Char}
    (hc : isBlank c = true ∨ c ∈ ['[', ']']) (h : c ∈ shape.token.toList) :
    c ∈ (afterLast '.' shape.name).toList := by
  rw [ArrayShape.token, String.toList_append, List.mem_append] at h
  rcases h with h | h
  · rcases hc with hblank | hbracket
    · exact mem_of_isBlank_of_mem_capitalize hblank h
    · have hcaseless : isCaseless c = true :=
        List.all_eq_true.mp (by decide : ['[', ']'].all isCaseless = true) c hbracket
      exact Decidable.byContradiction fun hnot => not_mem_capitalize hcaseless hnot h
  · -- the words for dimensions are letters alone
    have hletters : "Array".toList.all fun x => !isBlank x && x != '[' && x != ']' := by decide
    rw [String.toList_join, List.mem_flatMap] at h
    obtain ⟨word, hword, h⟩ := h
    rw [List.eq_of_mem_replicate hword] at h
    have hletter := List.all_eq_true.mp hletters c h
    rcases hc with hblank | hbracket
    · simp [hblank] at hletter
    · simp only [List.mem_cons, List.not_mem_nil, or_false] at hbracket
      rcases hbracket with rfl | rfl <;> simp at hletter

-- Without its own dots a text has the name that it has with brackets behind it; the name that ends
-- with dots has nothing after the last one.
private theorem mem_name_of_mem_afterLast {t : String} {c : Char}
    (h : c ∈ (afterLast '.' (bracketShape (trim t)).name).toList) :
    c ∈ (arrayShape t).name.toList := by
  cases hdots : stripEnd? "..." (trim t) with
  | none =>
    rw [arrayShape_of_not_dots hdots]
    exact (afterLast_suffix '.' _).subset h
  | some base =>
    have htrim := stripEnd?_eq_some.mp hdots
    have hshape : bracketShape (trim t) = ⟨trim t, 0⟩ :=
      bracketShape_of_last (by simp [htrim])
    rw [hshape, ArrayShape.name] at h
    rw [arrayShape_of_dots htrim]
    by_cases hmem : '<' ∈ base.toList
    · change c ∈ (trim (erase (bracketShape base).element)).toList
      rw [erase_element_of_mem hmem, ← erase_append_of_mem hmem "...", ← htrim]
      exact (afterLast_suffix '.' _).subset h
    · have hmem' : '<' ∉ (trim t).toList := by simpa [htrim] using hmem
      rw [erase_of_not_mem hmem', trim_trim, htrim] at h
      simp [afterLast] at h

/-- Dots behind a text make the shape that brackets behind it make exactly if the text does not end
with a blank or has nothing but blanks. They make the same part of a name exactly if no blanks
follow brackets at the end of the text, and then that part has brackets and blanks from the name of
the element type alone. -/
theorem dots_agree_with_brackets (t : String) :
    (arrayShape (t ++ "...") = arrayShape (t ++ "[]") ↔
      IsBlank t ∨ ∀ c ∈ t.toList.getLast?, isBlank c = false) ∧
    (token (t ++ "...") = token (t ++ "[]") ↔ ¬ EndsInSpacedBrackets t) ∧
    (¬ EndsInSpacedBrackets t → ∀ c ∈ (token (t ++ "...")).toList,
      isBlank c = true ∨ c ∈ ['[', ']'] → c ∈ (arrayShape t).name.toList) := by
  refine ⟨?_, token_append_dots_eq_iff, fun hends c hc hmark => ?_⟩
  · rw [arrayShape_append_dots, arrayShape_append_brackets, ArrayShape.succ_inj,
      trim_eq_trimRight_trimLeft, bracketShape_eq_trimRight_iff, ← trim_eq_trimRight_trimLeft,
      trim_eq_trimLeft_iff]
  · rw [token_append_dots_eq_iff.mpr hends, token_eq, arrayShape_append_brackets] at hc
    have hlast := mem_afterLast_of_mem_token hmark hc
    rw [ArrayShape.name_succ] at hlast
    exact mem_name_of_mem_afterLast hlast

/-- A blank behind generic arguments shows in the shape and not in the name. -/
theorem dots_agree_with_brackets_lists :
    ¬ EndsInSpacedBrackets "List<int[]> " ∧
      arrayShape ("List<int[]> " ++ "...") ≠ arrayShape ("List<int[]> " ++ "[]") ∧
      token ("List<int[]> " ++ "...") = token ("List<int[]> " ++ "[]") ∧
      ∀ c ∈ (token ("List<int[]> " ++ "...")).toList, c ∉ ['[', ']'] := by
  have htrim : trimRight (trimLeft "List<int[]> ") = "List<int[]>" := by decide
  have hends : ¬ EndsInSpacedBrackets "List<int[]> " := by
    rw [endsInSpacedBrackets_iff, htrim]
    rintro ⟨-, base, hbase⟩
    have hlast := congrArg (·.toList.getLast?) hbase
    simp at hlast
  have hname : (arrayShape "List<int[]> ").name = "List" := by
    have hshape : bracketShape "List<int[]>" = ⟨"List<int[]>", 0⟩ :=
      bracketShape_of_last (by decide)
    rw [← trim_eq_trimRight_trimLeft] at htrim
    rw [arrayShape_of_not_dots (by rw [htrim]; decide), htrim, hshape]
    decide
  obtain ⟨hshape, htoken, hmarks⟩ := dots_agree_with_brackets "List<int[]> "
  refine ⟨hends, fun h => ?_, htoken.mpr hends, fun c hc hbracket => ?_⟩
  · rcases hshape.mp h with hblank | hlast
    · exact absurd hblank (by decide)
    · exact absurd (hlast ' ' (by decide)) (by decide)
  · have hmem := hmarks hends c hc (.inr hbracket)
    rw [hname] at hmem
    have hnone : "List".toList.all (· ∉ ['[', ']']) := by decide
    simpa [hbracket] using List.all_eq_true.mp hnone c hmem

/-- With a blank before the dots, where one may stand, the brackets before it are no dimension and
get into the name. -/
theorem spaced_dots_ne_brackets :
    arrayShape ("int[] " ++ "...") = ⟨"int[] ", 1⟩ ∧ arrayShape ("int[] " ++ "[]") = ⟨"int", 2⟩ ∧
      token ("int[] " ++ "...") = "Int[]Array" ∧ token ("int[] " ++ "[]") = "IntArrayArray" ∧
      '[' ∉ (arrayShape "int[] ").name.toList := by
  have hdots : arrayShape ("int[] " ++ "...") = ⟨"int[] ", 1⟩ := by
    have hleft : trimLeft "int[] " = "int[] " := by decide
    rw [arrayShape_append_dots, hleft, bracketShape_of_trimRight_ne (by decide)]
    rfl
  have hone : bracketShape (trim "int[] ") = ⟨"int", 1⟩ := by
    have htrim : trim "int[] " = "int" ++ "[]" := by decide
    have hright : trimRight "int" = "int" := by decide
    rw [htrim, bracketShape_append, hright, bracketShape_of_last (by decide)]
    rfl
  have hbrackets : arrayShape ("int[] " ++ "[]") = ⟨"int", 2⟩ := by
    rw [arrayShape_append_brackets, hone]
    rfl
  refine ⟨hdots, hbrackets, ?_, ?_, ?_⟩
  · rw [token_eq, hdots]
    decide
  · rw [token_eq, hbrackets]
    decide
  · rw [arrayShape_of_not_dots (by decide), hone]
    decide

end TypeText
end TestSkeleton.Java
