import Mathlib.Data.List.Infix
import TestSkeleton.Proofs.Java.Brackets

/-!
# What samples look like

A sample is one of a few listed texts, or a new array. The element type of the array is a piece of
the type text without its generic arguments, so a sample has no characters of its own but those of
the listed texts and of `new` arrays.
-/

namespace TestSkeleton.Java

open Text

/-- Characters that stand in others with no generic arguments starting before them. -/
def StandsIn (xs ys : List Char) : Prop := ∃ before after, ys = before ++ xs ++ after ∧ '<' ∉ before

namespace StandsIn

variable {xs ys zs : List Char}

/-- A beginning of a text stands in it. -/
theorem of_isPrefix (h : xs <+: ys) : StandsIn xs ys := by
  obtain ⟨after, rfl⟩ := h
  exact ⟨[], after, rfl, List.not_mem_nil⟩

/-- What stands in a part stands in the whole. -/
theorem trans (h : StandsIn xs ys) (h' : StandsIn ys zs) : StandsIn xs zs := by
  obtain ⟨before, after, rfl, hbefore⟩ := h
  obtain ⟨before', after', rfl, hbefore'⟩ := h'
  refine ⟨before' ++ before, after ++ after', by simp only [List.append_assoc], ?_⟩
  rw [List.mem_append, not_or]
  exact ⟨hbefore', hbefore⟩

/-- What stands in characters does so without generic arguments as well. -/
theorem takeWhile_isInfix (h : StandsIn xs ys) :
    xs.takeWhile (· ≠ '<') <:+: ys.takeWhile (· ≠ '<') := by
  obtain ⟨before, after, rfl, hbefore⟩ := h
  have hall : ∀ x ∈ before, decide (x ≠ '<') = true := by
    intro x hx
    apply decide_eq_true
    rintro rfl
    exact hbefore hx
  have hprefix : xs.takeWhile (· ≠ '<') <+: (xs ++ after).takeWhile (· ≠ '<') := by
    rw [List.takeWhile_append]
    split
    · exact (List.takeWhile_prefix _).trans (List.prefix_append _ _)
    · exact List.prefix_rfl
  rw [List.append_assoc, List.takeWhile_append_of_pos hall]
  exact hprefix.isInfix.trans (List.suffix_append _ _).isInfix

end StandsIn

/-! ### Pieces of type texts -/

/-- Without the blanks at its start a text stands in itself. -/
theorem standsIn_dropBlanks (xs : List Char) : StandsIn (dropBlanks xs) xs := by
  refine ⟨xs.takeWhile isBlank, [], ?_, fun hmem => ?_⟩
  · rw [List.append_nil, dropBlanks, List.takeWhile_append_dropWhile]
  · exact absurd (List.mem_takeWhile_imp hmem) (by decide)

/-- A text without the blanks at its end is a beginning of it. -/
theorem dropBlanksRight_isPrefix (xs : List Char) : dropBlanksRight xs <+: xs := by
  rw [dropBlanksRight, ← List.reverse_suffix, List.reverse_reverse]
  exact List.dropWhile_suffix isBlank

/-- A trimmed text stands in the text. -/
theorem standsIn_trim (s : String) : StandsIn (trim s).toList s.toList := by
  rw [toList_trim]
  exact (StandsIn.of_isPrefix (dropBlanksRight_isPrefix _)).trans (standsIn_dropBlanks _)

/-- A text without its start stands in the text, if the start opens no type arguments. -/
theorem standsIn_dropStart {start : String} (h : '<' ∉ start.toList) (s : String) :
    StandsIn (dropStart start s).toList s.toList := by
  rw [dropStart]
  cases hstrip : stripStart? start s with
  | none => exact .of_isPrefix List.prefix_rfl
  | some rest =>
    obtain rfl := stripStart?_eq_some.mp hstrip
    exact ⟨start.toList, [], by simp, h⟩

/-- A short type stands in the type. -/
theorem standsIn_shortType (type : String) : StandsIn (shortType type).toList type.toList := by
  have hutil : StandsIn (shortType type).toList (dropStart "java.lang." (trim type)).toList :=
    standsIn_dropStart (by decide) _
  have hlang : StandsIn (dropStart "java.lang." (trim type)).toList (trim type).toList :=
    standsIn_dropStart (by decide) _
  exact (hutil.trans hlang).trans (standsIn_trim type)

namespace TypeText

private theorem element_bracketShape_isPrefix (s : String) :
    (bracketShape s).element.toList <+: s.toList := by
  obtain ⟨rest, hs, -⟩ := exists_eq_element_append s
  exact ⟨rest.toList, by rw [← String.toList_append, ← hs]⟩

/-- The element type of an array is a beginning of its text. -/
theorem element_isPrefix (type : String) :
    (arrayShape type).element.toList <+: (trim type).toList := by
  cases hdots : stripEnd? "..." (trim type) with
  | none =>
    rw [arrayShape_of_not_dots hdots]
    exact element_bracketShape_isPrefix _
  | some base =>
    have htrim := stripEnd?_eq_some.mp hdots
    rw [arrayShape_of_dots htrim, htrim, String.toList_append]
    exact (element_bracketShape_isPrefix base).trans (List.prefix_append _ _)

/-- The element type of an array stands in what comes before its last brackets. -/
theorem standsIn_element (s : String) :
    StandsIn (arrayShape (s ++ "[]")).element.toList s.toList := by
  rw [arrayShape_append_brackets]
  exact (StandsIn.of_isPrefix (element_bracketShape_isPrefix _)).trans (standsIn_trim s)

end TypeText

/-! ### Samples -/

/-- The samples of types that are no arrays. -/
def listedSamples : List String :=
  Primitive.all.flatMap Primitive.samples ++ instances.flatMap Prod.snd ++ ["null"]

/-- What a sample of a type can be: a listed one, or a new array of a type that is named before the
generic arguments. -/
inductive IsSampleOf (type : String) : String → Prop
  | listed {s : String} (h : s ∈ listedSamples) : IsSampleOf type s
  | array {element : String} (h : element.toList <:+: (TypeText.erase type).toList) (dims : Nat) :
    IsSampleOf type ("new " ++ element ++ "[0]" ++ String.join (List.replicate dims "[]"))

private theorem mem_listedSamples_of_primitive {p : Primitive} {s : String} (h : s ∈ p.samples) :
    s ∈ listedSamples := by
  have hp : p ∈ Primitive.all := by cases p <;> decide
  exact List.mem_append_left _ (List.mem_append_left _ (List.mem_flatMap.mpr ⟨p, hp, h⟩))

private theorem null_mem_listedSamples : "null" ∈ listedSamples :=
  List.mem_append_right _ List.mem_cons_self

/-- The samples of a type that is no array are listed. -/
theorem mem_listedSamples {type s : String} (h : s ∈ plainSamples type) : s ∈ listedSamples := by
  rw [plainSamples.eq_def] at h
  split at h
  · exact mem_listedSamples_of_primitive h
  · rcases List.mem_append.mp h with h | h
    · exact mem_listedSamples_of_primitive h
    · rw [List.mem_singleton.mp h]
      exact null_mem_listedSamples
  · rcases List.mem_append.mp h with h | h
    · cases hlookup : instances.lookup (TypeText.erase type) with
      | none =>
        rw [hlookup] at h
        cases h
      | some ss =>
        rw [hlookup] at h
        obtain ⟨before, after, hinstances, -⟩ := List.lookup_eq_some_iff.mp hlookup
        have hmem : (TypeText.erase type, ss) ∈ instances := by
          rw [hinstances]
          exact List.mem_append_right _ List.mem_cons_self
        exact List.mem_append_left _
          (List.mem_append_right _ (List.mem_flatMap.mpr ⟨_, hmem, h⟩))
    · rw [List.mem_singleton.mp h]
      exact null_mem_listedSamples

/-- A type text that ends in brackets after its dots have been written so has them after a
beginning of it. -/
theorem exists_bracketDots {type base : String} (h : stripEnd? "[]" (bracketDots type) = some base) :
    bracketDots type = base ++ "[]" ∧ base.toList <+: type.toList := by
  have hbrackets := stripEnd?_eq_some.mp h
  refine ⟨hbrackets, ?_⟩
  rw [bracketDots] at hbrackets
  cases hdots : stripEnd? "..." type with
  | none =>
    rw [hdots] at hbrackets
    change type = base ++ "[]" at hbrackets
    exact ⟨['[', ']'], by rw [hbrackets, String.toList_append]; rfl⟩
  | some s =>
    rw [hdots] at hbrackets
    obtain rfl : s = base := String.append_left_inj _ |>.mp hbrackets
    exact ⟨['.', '.', '.'], by rw [stripEnd?_eq_some.mp hdots, String.toList_append]; rfl⟩

/-- Every sample in the pool of a type is one of those forms. -/
theorem isSampleOf_of_mem {type s : String} (h : s ∈ samplePool type) : IsSampleOf type s := by
  rw [samplePool, trimmedSamples] at h
  split at h
  · next harray =>
    obtain ⟨base, hbase⟩ := Option.isSome_iff_exists.mp harray
    obtain ⟨hbrackets, hprefix⟩ := exists_bracketDots hbase
    simp only [arraySamples, List.mem_cons, List.not_mem_nil, or_false] at h
    rcases h with rfl | rfl
    · refine .array ?_ _
      rw [hbrackets, TypeText.toList_erase, TypeText.toList_erase]
      have hstands := (TypeText.standsIn_element base).trans (.of_isPrefix hprefix)
      exact (hstands.trans (standsIn_shortType type)).takeWhile_isInfix
    · exact .listed null_mem_listedSamples
  · exact .listed (mem_listedSamples h)

/-- Going around in a list stays in it. -/
theorem cycle_mem {xs : List String} (h : xs ≠ []) (i : Int) : cycle xs h i ∈ xs :=
  List.get_mem xs _

/-- A sample is a listed one or a new array, for every variant. -/
theorem isSampleOf_sample (type : String) (variant : Int) :
    IsSampleOf type (sample type variant) :=
  isSampleOf_of_mem (cycle_mem _ variant)

end TestSkeleton.Java
