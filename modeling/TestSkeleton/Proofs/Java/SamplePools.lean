import TestSkeleton.Proofs.Java.ArrayTypes
import TestSkeleton.Proofs.Java.Samples

/-!
# Pools of samples

The numbers of variants go around in the pool of a type, in both directions. The pool of a type that
is neither primitive nor the class of a primitive type is that of its name: generic arguments change
nothing, for the type itself and for its arrays.

Specification: `SPEC_FULL.md:170–171`.
-/

namespace TestSkeleton.Java

open Text

/-! ### Going around -/

section cycle

variable {xs : List String} (h : xs ≠ [])

include h in
private theorem length_pos : (0 : Int) < xs.length :=
  Int.natCast_pos.mpr (List.length_pos_iff.mpr h)

/-- The position that a number goes around to. -/
theorem getElem?_cycle (i : Int) : xs[(i % xs.length).toNat]? = some (cycle xs h i) := by
  rw [cycle]
  exact List.getElem?_eq_getElem _

/-- Once around, a cycle is where it was. -/
theorem cycle_add_length (i : Int) : cycle xs h (i + xs.length) = cycle xs h i := by
  simp only [cycle, Int.add_emod_right]

/-- The first numbers go through the list in order. -/
theorem map_cycle_range : (List.range xs.length).map (fun i : Nat => cycle xs h i) = xs := by
  refine List.ext_getElem (by simp) fun i hi hi' => ?_
  have hmod : ((i : Int) % xs.length).toNat = i := by
    rw [Int.emod_eq_of_lt (Int.natCast_nonneg i) (Int.ofNat_lt.mpr hi'), Int.toNat_natCast]
  simp only [List.getElem_map, List.getElem_range, cycle, hmod]
  rfl

end cycle

/-! ### Generic arguments -/

/-- The name of a type that has samples by its name alone: without blanks at its ends, generic
arguments, brackets and dots, and no primitive type or the class of one. -/
structure IsReference (name : String) : Prop where
  trim_eq : trim name = name
  not_generic : '<' ∉ name.toList
  not_array : stripEnd? "[]" name = none
  not_varargs : stripEnd? "..." name = none
  not_keyword : ∀ p : Primitive, shortType name ≠ p.keyword
  not_wrapper : ∀ p : Primitive, shortType name ≠ p.wrapper

/-- What is left without a beginning ends the text. -/
theorem exists_eq_append_dropStart (start s : String) : ∃ before, s = before ++ dropStart start s := by
  rw [dropStart]
  cases hstrip : stripStart? start s with
  | none => exact ⟨"", String.empty_append.symm⟩
  | some t => exact ⟨start, stripStart?_eq_some.mp hstrip⟩

/-- A short type is the end of the type. -/
theorem exists_eq_append_shortType (type : String) :
    ∃ before, trim type = before ++ shortType type := by
  obtain ⟨before, hbefore⟩ := exists_eq_append_dropStart "java.lang." (trim type)
  obtain ⟨before', hbefore'⟩ :=
    exists_eq_append_dropStart "java.util." (dropStart "java.lang." (trim type))
  refine ⟨before ++ before', ?_⟩
  rw [shortType, String.append_assoc, ← hbefore', ← hbefore]

namespace IsReference

variable {name : String}

/-- Arguments and brackets stay behind the short name. -/
theorem shortType_append (h : IsReference name) {rest : String} (hrest : IsSolid rest) {c : Char}
    (hc : c ∈ rest.toList.head?) (hopens : c ∈ ['<', '[']) :
    shortType (name ++ rest) = shortType name ++ rest := by
  have hfollows : FollowsName rest := .opened hc (.inr hopens)
  have hdots : rest ≠ "..." := by
    rintro rfl
    obtain rfl : '.' = c := Option.some.inj hc
    simp at hopens
  have hlangDot : "java.lang." = "java.lang" ++ "." := by decide
  have hutilDot : "java.util." = "java.util" ++ "." := by decide
  rw [shortType, shortType, hrest.trim_append, trimLeft_of_trim_eq h.trim_eq, h.trim_eq, hlangDot,
    hutilDot, dropStart_append (by simp) (absurd · hdots) hfollows,
    dropStart_append (by simp) (absurd · hdots) hfollows]

private theorem exists_eq_append (h : IsReference name) : ∃ before, name = before ++ shortType name := by
  obtain ⟨before, hbefore⟩ := exists_eq_append_shortType name
  exact ⟨before, by rw [← hbefore, h.trim_eq]⟩

private theorem not_generic_shortType (h : IsReference name) : '<' ∉ (shortType name).toList := by
  obtain ⟨before, hname⟩ := h.exists_eq_append
  intro hmem
  apply h.not_generic
  rw [hname, String.toList_append]
  exact List.mem_append_right _ hmem

private theorem append_arguments_ends (h : IsReference name) (arguments : Option String) :
    stripEnd? "[]" (shortType name ++ typeArguments arguments) = none ∧
      stripEnd? "..." (shortType name ++ typeArguments arguments) = none ∧
      ∀ c ∈ (shortType name ++ typeArguments arguments).toList.getLast?, isBlank c = false := by
  cases arguments with
  | none =>
    obtain ⟨before, hname⟩ := h.exists_eq_append
    have hends {ending : String} (hstrip : stripEnd? ending name = none) :
        stripEnd? ending (shortType name) = none := by
      refine stripEnd?_eq_none.mpr fun base hbase => stripEnd?_eq_none.mp hstrip (before ++ base) ?_
      rw [String.append_assoc, ← hbase, ← hname]
    rw [append_typeArguments_none]
    refine ⟨hends h.not_array, hends h.not_varargs, fun c hc => ?_⟩
    have hright : trimRight name = name := by
      have htrim := h.trim_eq
      rwa [trim_eq_trimRight_trimLeft, trimLeft_of_trim_eq h.trim_eq] at htrim
    refine trimRight_eq_self_iff.mp hright c ?_
    rw [hname, String.toList_append, List.getLast?_append, hc]
    rfl
  | some g =>
    have hlast := getLast?_append_typeArguments (shortType name) g
    refine ⟨stripEnd?_of_getLast?_ne (by decide) ?_, stripEnd?_of_getLast?_ne (by decide) ?_,
      fun c hc => ?_⟩
    · rw [hlast]
      decide
    · rw [hlast]
      decide
    · rw [hlast, Option.mem_some] at hc
      rw [← hc]
      decide

private theorem erase_trim (h : IsReference name) (arguments : Option String) :
    TypeText.erase (trim (shortType name ++ typeArguments arguments)) =
      trimLeft (shortType name) := by
  have hleft : '<' ∉ (trimLeft (shortType name)).toList := by
    obtain ⟨before, -, hshort⟩ := exists_eq_append_trimLeft (shortType name)
    intro hmem
    apply h.not_generic_shortType
    rw [hshort, String.toList_append]
    exact List.mem_append_right _ hmem
  rw [trim_eq_trimLeft_iff.mpr (.inr (h.append_arguments_ends arguments).2.2)]
  cases arguments with
  | none =>
    rw [append_typeArguments_none, TypeText.erase_of_not_mem hleft]
  | some g =>
    have hclosed : typeArguments (some g) = "<" ++ (g ++ ">") := String.append_assoc
    rw [hclosed, trimLeft_append ⟨'<', by simp, by decide⟩, TypeText.erase_append_arguments hleft]

private theorem plainSamples_append (h : IsReference name) (arguments : Option String) :
    plainSamples (shortType name ++ typeArguments arguments) =
      (instances.lookup (shortType name)).getD [] ++ ["null"] := by
  have hne (p : Primitive) : p.keyword ≠ shortType name ++ typeArguments arguments ∧
      p.wrapper ≠ shortType name ++ typeArguments arguments := by
    cases arguments with
    | none =>
      rw [append_typeArguments_none]
      exact ⟨(h.not_keyword p).symm, (h.not_wrapper p).symm⟩
    | some g =>
      have hplain : '<' ∉ p.keyword.toList ∧ '<' ∉ p.wrapper.toList := by cases p <;> decide
      have hmem : '<' ∈ (shortType name ++ typeArguments (some g)).toList := by
        simp [typeArguments]
      exact ⟨fun heq => hplain.1 (heq ▸ hmem), fun heq => hplain.2 (heq ▸ hmem)⟩
  have hkeyword : Primitive.ofKeyword? (shortType name ++ typeArguments arguments) = none :=
    List.find?_eq_none.mpr fun p _ => by simpa using (hne p).1
  have hwrapper : Primitive.ofWrapper? (shortType name ++ typeArguments arguments) = none :=
    List.find?_eq_none.mpr fun p _ => by simpa using (hne p).2
  rw [plainSamples, hkeyword, hwrapper, erase_append_typeArguments h.not_generic_shortType]

private theorem bracketDots_eq_self {type : String} (h : stripEnd? "..." type = none) :
    bracketDots type = type := by rw [bracketDots, h]

/-- The pool of a reference type, whatever its generic arguments. -/
theorem samplePool_append (h : IsReference name) (arguments : Option String) :
    samplePool (name ++ typeArguments arguments) =
      (instances.lookup (shortType name)).getD [] ++ ["null"] := by
  obtain ⟨hbrackets, hdots, -⟩ := h.append_arguments_ends arguments
  have hshort : shortType (name ++ typeArguments arguments) =
      shortType name ++ typeArguments arguments := by
    cases arguments with
    | none => rw [append_typeArguments_none, append_typeArguments_none]
    | some g =>
      have hlast : '>' ∈ (typeArguments (some g)).toList.getLast? := by
        simpa using getLast?_append_typeArguments "" g
      have hhead : '<' ∈ (typeArguments (some g)).toList.head? := by simp [typeArguments]
      exact h.shortType_append ⟨⟨'<', hhead, by decide⟩, ⟨'>', hlast, by decide⟩⟩ hhead (by decide)
  rw [samplePool, hshort, bracketDots_eq_self hdots, trimmedSamples, hbrackets, Option.isSome_none,
    if_neg Bool.false_ne_true, h.plainSamples_append]

/-- The pool of the arrays of a reference type, whatever its generic arguments. -/
theorem samplePool_append_brackets (h : IsReference name) (arguments : Option String) (d : Nat) :
    samplePool (name ++ typeArguments arguments ++ String.join (List.replicate (d + 1) "[]")) =
      ["new " ++ trimLeft (shortType name) ++ "[0]" ++ String.join (List.replicate d "[]"),
        "null"] := by
  have hlast : (typeArguments arguments ++ String.join (List.replicate (d + 1) "[]")).toList.getLast? =
      some ']' := by
    rw [join_replicate_succ, ← String.append_assoc, String.toList_append]
    exact List.getLast?_append_of_ne_nil _ (by decide)
  have hshort : shortType (name ++ typeArguments arguments ++
      String.join (List.replicate (d + 1) "[]")) = shortType name ++ typeArguments arguments ++
        String.join (List.replicate (d + 1) "[]") := by
    have hhead : ∃ c ∈ ['<', '['], isBlank c = false ∧
        c ∈ (typeArguments arguments ++ String.join (List.replicate (d + 1) "[]")).toList.head? := by
      cases arguments with
      | none => exact ⟨'[', by decide, by decide, by simp [typeArguments, List.replicate_succ]⟩
      | some g => exact ⟨'<', by decide, by decide, by simp [typeArguments]⟩
    obtain ⟨c, hopens, hblank, hc⟩ := hhead
    have hsolid : IsSolid (typeArguments arguments ++ String.join (List.replicate (d + 1) "[]")) :=
      ⟨⟨c, hc, hblank⟩, ⟨']', hlast, by decide⟩⟩
    rw [String.append_assoc, h.shortType_append hsolid hc hopens, String.append_assoc]
  have hdots : stripEnd? "..." (shortType name ++ typeArguments arguments ++
      String.join (List.replicate (d + 1) "[]")) = none := by
    refine stripEnd?_of_getLast?_ne (by decide) ?_
    rw [String.append_assoc, String.toList_append, List.getLast?_append, hlast,
      Option.some_or]
    decide
  have hends : stripEnd? "[]" (shortType name ++ typeArguments arguments ++
      String.join (List.replicate (d + 1) "[]")) =
        some (shortType name ++ typeArguments arguments ++ String.join (List.replicate d "[]")) := by
    rw [stripEnd?_eq_some, join_replicate_succ, ← String.append_assoc]
  obtain ⟨hbrackets, -, hblank⟩ := h.append_arguments_ends arguments
  rw [samplePool, hshort, bracketDots_eq_self hdots, trimmedSamples, hends, Option.isSome_some,
    if_pos rfl, TypeText.arrayShape_append_replicate_of_ends (stripEnd?_eq_none.mp hbrackets) hblank,
    arraySamples, h.erase_trim arguments, Nat.add_sub_cancel]

/-- A reference type and its arrays have the same pools with generic arguments as without. -/
theorem samplePool_eq (h : IsReference name) (g : String) (d : Nat) :
    samplePool (name ++ ("<" ++ g ++ ">") ++ String.join (List.replicate d "[]")) =
      samplePool (name ++ String.join (List.replicate d "[]")) := by
  cases d with
  | zero =>
    have hgeneric := h.samplePool_append (some g)
    have hplain := h.samplePool_append none
    rw [append_typeArguments_none] at hplain
    simp only [List.replicate_zero, String.join_nil, String.append_empty]
    exact hgeneric.trans hplain.symm
  | succ d =>
    have hgeneric := h.samplePool_append_brackets (some g) d
    have hplain := h.samplePool_append_brackets none d
    rw [append_typeArguments_none] at hplain
    exact hgeneric.trans hplain.symm

end IsReference

/-- The samples of a type repeat after as many variants as its pool has, going around in the pool in
both directions, and those of a reference type or its arrays do not depend on generic arguments. -/
theorem samples_cycle :
    (∀ type, ∃ n : Nat, 1 ≤ n ∧
      (∀ v : Int, sample type (v + n) = sample type v) ∧
      (∀ v : Int, 0 ≤ v % n ∧ v % n < n ∧
        (samplePool type)[(v % n).toNat]? = some (sample type v)) ∧
      (List.range n).map (fun i : Nat => sample type i) = samplePool type) ∧
    ∀ name, IsReference name → ∀ (g : String) (d : Nat) (v : Int),
      sample (name ++ ("<" ++ g ++ ">") ++ String.join (List.replicate d "[]")) v =
        sample (name ++ String.join (List.replicate d "[]")) v := by
  refine ⟨fun type => ?_, fun name h g d v => ?_⟩
  · have hne := samplePool_ne_nil type
    have hpos := length_pos hne
    exact ⟨(samplePool type).length, List.length_pos_iff.mpr hne, cycle_add_length hne,
      fun v => ⟨Int.emod_nonneg v (Int.ne_of_gt hpos), Int.emod_lt_of_pos v hpos, getElem?_cycle hne v⟩,
      map_cycle_range hne⟩
  · simp only [sample, h.samplePool_eq g d]

/-- Arguments with a comma and an array in them leave the sample of an array of maps as it is. -/
theorem samples_cycle_maps :
    IsReference "java.util.Map" ∧ sample "java.util.Map<String, int[]>[][]" (-2) = "new Map[0][]" := by
  have href : IsReference "java.util.Map" := by
    have hshort : shortType "java.util.Map" = "Map" := by decide
    refine ⟨by decide, by decide, by decide, by decide, ?_, ?_⟩ <;> rw [hshort] <;> intro p <;>
      cases p <;> decide
  have hpool : samplePool "java.util.Map[][]" = ["new Map[0][]", "null"] :=
    (href.samplePool_append_brackets none 1).trans (by decide)
  have hvariant := getElem?_cycle (samplePool_ne_nil "java.util.Map[][]") (-2)
  change _ = some (sample "java.util.Map[][]" (-2)) at hvariant
  rw [hpool] at hvariant
  have hsample := samples_cycle.2 "java.util.Map" href "String, int[]" 2 (-2)
  exact ⟨href, hsample.trans (Option.some.inj (hvariant.symm.trans (by decide)))⟩

end TestSkeleton.Java
