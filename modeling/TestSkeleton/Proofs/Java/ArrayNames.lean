import TestSkeleton.Java.TestClass
import TestSkeleton.Proofs.Java.ArrayTypes
import TestSkeleton.Proofs.Java.Samples

/-!
# Names in new arrays

The samples of an array type make an array of its element type. A generated file imports two
annotations and nothing else, so the element type has to be named as it is written, or as a type of
the package that needs no import. The names of another package are shortened as well, since samples
are looked for by short names.

Specification: `SPEC_FULL.md:171–172`.
-/

namespace TestSkeleton.Java

open Text

/-- The name of the type whose instance or array an expression makes. -/
def newName? (expression : String) : Option String :=
  (stripStart? "new " expression).map fun rest =>
    String.ofList (rest.toList.takeWhile (· ≠ '['))

/-- The name that a new array is made with, read back from the sample. -/
theorem newName?_array {name : String} (hname : '[' ∉ name.toList) (sizes : String) :
    newName? ("new " ++ name ++ "[0]" ++ sizes) = some name := by
  have hstrip : stripStart? "new " ("new " ++ name ++ "[0]" ++ sizes) =
      some (name ++ "[0]" ++ sizes) := by
    rw [stripStart?_eq_some, String.append_assoc, String.append_assoc, String.append_assoc]
  have hall : ∀ c ∈ name.toList, decide (c ≠ '[') = true := by
    intro c hc
    apply decide_eq_true
    rintro rfl
    exact hname hc
  rw [newName?, hstrip, Option.map_some, Option.some.injEq, ← String.toList_inj, String.toList_ofList,
    String.append_assoc, String.toList_append, List.takeWhile_append_of_pos hall]
  simp

/-- A name means a type if it is the full name or lacks only the package that needs no import. -/
def Means (name full : String) : Prop := name = full ∨ "java.lang." ++ name = full

namespace ArrayText

variable {t : ArrayText} {variant : Int}

/-- The new array of every other variant is named by the short name of the element type. -/
theorem newName?_sample (ht : ¬ t.IsDottedPackage) (hdims : 0 < t.dims)
    (heven : variant % 2 = 0) : newName? (sample t.text variant) = some t.shortName := by
  have hbracket : '[' ∉ t.shortName.toList := fun hmem =>
    (t.isName_shortName.plain '[' hmem).2 (by decide)
  simp only [sample, samplePool_of_not_isDottedPackage ht hdims, cycle_pair, if_pos heven]
  exact newName?_array hbracket _

/-- A package with dots behind it is no array: one of the dots goes away with the package. -/
theorem sample_of_isDottedPackage (ht : t.IsDottedPackage) : sample t.text variant = "null" := by
  obtain ⟨hname, harguments, hgaps, hvarargs⟩ := ht
  have htrim : trim t.text = t.name.text ++ "..." := by
    have hsolid := (t.name.isName_text.isElement_append t.arguments).isSolid_append t.gaps t.isVarargs
    rw [text, element, hsolid.trim_eq t.isBlank_before t.isBlank_after, harguments, hgaps, hvarargs]
    simp [typeArguments, brackets, dots]
  have hpool : samplePool t.text = ["null"] := by
    have hall : ∀ name ∈ ["java.lang", "java.util", "java.lang.java.util"], trimmedSamples (bracketDots
        (dropStart "java.util." (dropStart "java.lang." (name ++ "...")))) = ["null"] := by decide
    rw [samplePool, shortType, htrim]
    exact hall _ hname
  have hmem : sample t.text variant ∈ samplePool t.text := cycle_mem _ variant
  rw [hpool] at hmem
  exact List.mem_singleton.mp hmem

/-- The short name means the element type exactly if the name does not start with the package that
is taken away for looking samples up. -/
theorem means_shortName_iff : Means t.shortName t.name.text ↔
    stripStart? "java.util." (dropStart "java.lang." t.name.text) = none := by
  have hne (start rest : String) (hstart : start ≠ "") : rest ≠ start ++ rest := fun h =>
    hstart (String.append_eq_right_iff.mp h.symm)
  rw [shortName, dropStart.eq_1 "java.util."]
  cases hlang : stripStart? "java.lang." t.name.text with
  | none =>
    have hname : dropStart "java.lang." t.name.text = t.name.text := by
      rw [dropStart, hlang]
      rfl
    rw [hname]
    cases hutil : stripStart? "java.util." t.name.text with
    | none => exact iff_of_true (.inl rfl) rfl
    | some rest =>
      refine iff_of_false ?_ (Option.some_ne_none rest)
      rw [stripStart?_eq_some.mp hutil, Option.getD_some]
      rintro (h | h)
      · exact hne "java.util." rest (by decide) h
      · rw [String.append_left_inj] at h
        exact absurd h (by decide)
  | some name =>
    have hname : dropStart "java.lang." t.name.text = name := by
      rw [dropStart, hlang]
      rfl
    rw [hname, stripStart?_eq_some.mp hlang]
    cases hutil : stripStart? "java.util." name with
    | none => exact iff_of_true (.inr rfl) rfl
    | some rest =>
      refine iff_of_false ?_ (Option.some_ne_none rest)
      rw [stripStart?_eq_some.mp hutil, Option.getD_some]
      rintro (h | h)
      · exact hne ("java.lang." ++ "java.util.") rest (by decide) (by rwa [String.append_assoc])
      · rw [String.append_right_inj] at h
        exact hne "java.util." rest (by decide) h

/-- The imports of a test class are the two annotations, and no type is imported from the package
that short names lack. The new array of every other variant of an array type has a name that means
the element type exactly if the name of the element type does not start with that package. -/
theorem newName_means_iff {f : Framework} (hf : f ∈ Framework.known) (lineEnd : String)
    (c : ClassInfo) (hdims : 0 < t.dims) (heven : variant % 2 = 0) :
    header f.imports lineEnd c = packageStatement lineEnd c.packageName ++
        (importStatement lineEnd f.testImport ++ importStatement lineEnd f.setUpImport) ++ lineEnd ∧
      (∀ name ∈ f.imports, stripStart? "java.util." name = none) ∧
      ((∃ name, newName? (sample t.text variant) = some name ∧ Means name t.name.text) ↔
        stripStart? "java.util." (dropStart "java.lang." t.name.text) = none ∧
          ¬ t.IsDottedPackage) ∧
      ∀ rest, stripStart? "java.util." (dropStart "java.lang." t.name.text) = some rest →
        newName? (sample t.text variant) = some rest := by
  refine ⟨?_, ?_, ?_, fun rest hrest => ?_⟩
  · simp [header, Framework.imports]
  · have hall : ∀ f ∈ Framework.known, ∀ name ∈ f.imports, stripStart? "java.util." name = none := by
      decide
    exact hall f hf
  · by_cases ht : t.IsDottedPackage
    · have hnone : newName? "null" = none := by decide
      rw [sample_of_isDottedPackage ht, hnone]
      simp [ht]
    · rw [newName?_sample ht hdims heven, ← means_shortName_iff]
      simp [ht]
  · have ht : ¬ t.IsDottedPackage := by
      have hall : ∀ name ∈ ["java.lang", "java.util", "java.lang.java.util"],
          stripStart? "java.util." (dropStart "java.lang." name) = none := by decide
      rintro ⟨hname, -⟩
      rw [hall _ hname] at hrest
      cases hrest
    rw [newName?_sample ht hdims heven, shortName, dropStart.eq_1 "java.util.", hrest, Option.getD_some]

/-- Arrays of a type that needs no import, in two dimensions. -/
def iterables : ArrayText where
  name := ⟨["java", "lang"], "Iterable", by decide⟩
  arguments := some "java.util.Map<String, int[]>"
  gaps := [" "]
  isVarargs := true
  isBlank_gaps := by decide
  isBlank_before := by decide
  isBlank_after := by decide

/-- The package that needs no import may go away, and the generic arguments do not matter. -/
theorem newName_means_iterable :
    Framework.junit4 ∈ Framework.known ∧ 0 < iterables.dims ∧ (-2 : Int) % 2 = 0 ∧
      iterables.text = "java.lang.Iterable<java.util.Map<String, int[]>> []..." ∧
      ∃ name, newName? (sample iterables.text (-2)) = some name ∧
        Means name "java.lang.Iterable" := by
  have hknown : Framework.junit4 ∈ Framework.known := by decide
  have hdims : 0 < iterables.dims := by decide
  have hname : iterables.name.text = "java.lang.Iterable" := by decide
  obtain ⟨-, -, hmeans, -⟩ := newName_means_iff hknown "\n" { canonicalName := "a.First" } hdims
    (by decide : (-2 : Int) % 2 = 0)
  rw [hname] at hmeans
  exact ⟨hknown, hdims, by decide, by decide,
    hmeans.mpr ⟨by decide, fun ht => absurd ht.2.1 (by decide)⟩⟩

/-- Arrays of lists, named with the package of their type. -/
def lists : ArrayText where
  name := ⟨["java", "util"], "List", by decide⟩
  arguments := some "String"
  gaps := [""]
  isBlank_gaps := by decide
  isBlank_before := by decide
  isBlank_after := by decide

/-- Nothing imports the type whose name is left of that of a list. -/
theorem newName_of_lists :
    lists.text = "java.util.List<String>[]" ∧ newName? (sample lists.text 0) = some "List" ∧
      ¬ Means "List" lists.name.text ∧
      ∀ f ∈ Framework.known, "java.util.List" ∉ f.imports := by
  have hname : lists.name.text = "java.util.List" := by decide
  have hshort : lists.shortName = "List" := by decide
  refine ⟨by decide, ?_, ?_, by decide⟩
  · rw [newName?_sample (fun ht => absurd ht.2.1 (by decide)) (by decide) (by decide), hshort]
  · rw [hname, Means]
    decide

end ArrayText
end TestSkeleton.Java
