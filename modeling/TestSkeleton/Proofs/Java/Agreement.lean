import TestSkeleton.Java.TestClass
import TestSkeleton.Proofs.Java.TargetSegments
import TestSkeleton.Proofs.Outcome

/-!
# What a test class says and where it is

The text of a test class has the package and the name of the class in it, and so has its target. The
directories below the output root are the parts of the package that the text states. The file is
named for the canonical name, the declared class for the simple name: the two agree unless a name is
given that is not the last part of the canonical one.

Specification: `SPEC_FULL.md:37`, `SPEC_FULL.md:49` and `SPEC_FULL.md:79`.
-/

namespace TestSkeleton.Java

/-- A text starts with a package statement. -/
def OpensWithPackage (text : String) : Prop :=
  ∃ name rest, text = "package " ++ name ++ ";" ++ rest

/-- What stands between the package statement and the class: the imports and an empty line. -/
def importSection (imports : List String) (lineEnd : String) : String :=
  String.join (imports.map (importStatement lineEnd)) ++ lineEnd

variable {c : ClassInfo} {init : List String} {last : String}

/-- The package of a class is all of its canonical name but the last part. -/
theorem packageName_eq (hname : Text.splitOn '.' c.canonicalName = init ++ [last]) :
    c.packageName = ".".intercalate init :=
  (Text.around_last_of_splitOn hname).1

/-- Only a class without a package has an empty package name. -/
theorem packageName_eq_empty_iff (h : IsQualified c.canonicalName)
    (hname : Text.splitOn '.' c.canonicalName = init ++ [last]) :
    c.packageName = "" ↔ init = [] := by
  rw [packageName_eq hname]
  constructor
  · intro hempty
    cases init with
    | nil => rfl
    | cons part init =>
      have hpart : part ≠ "" := h.part_ne_empty part (by simp [hname])
      cases init with
      | nil =>
        rw [String.intercalate_singleton] at hempty
        exact absurd hempty hpart
      | cons next init =>
        rw [String.intercalate_cons_cons] at hempty
        simp at hempty
  · rintro rfl
    rfl

/-- The header has a package statement in front of its imports exactly if there is a package. -/
theorem header_eq (h : IsQualified c.canonicalName)
    (hname : Text.splitOn '.' c.canonicalName = init ++ [last]) (imports : List String)
    (lineEnd : String) :
    header imports lineEnd c =
      (if init = [] then "" else "package " ++ ".".intercalate init ++ ";" ++ lineEnd ++ lineEnd) ++
        importSection imports lineEnd := by
  have hstatement : packageStatement lineEnd c.packageName =
      if init = [] then "" else "package " ++ ".".intercalate init ++ ";" ++ lineEnd ++ lineEnd := by
    rw [packageStatement]
    by_cases hinit : init = []
    · rw [if_pos ((packageName_eq_empty_iff h hname).mpr hinit), if_pos hinit]
    · rw [if_neg fun hempty => hinit ((packageName_eq_empty_iff h hname).mp hempty), if_neg hinit,
        packageName_eq hname]
  rw [header, hstatement, importSection, String.append_assoc]

/-- An import statement is no package statement. -/
theorem not_opensWithPackage_importSection {imports : List String} (himports : imports ≠ [])
    (lineEnd : String) : ¬ OpensWithPackage (importSection imports lineEnd) := by
  obtain ⟨first, others, rfl⟩ := List.exists_cons_of_ne_nil himports
  rintro ⟨name, rest, htext⟩
  have hchars := congrArg String.toList htext
  simp [importSection, importStatement] at hchars

/-- A header opens with a package statement exactly when the class is in a package. -/
theorem opensWithPackage_header_iff (h : IsQualified c.canonicalName)
    (hname : Text.splitOn '.' c.canonicalName = init ++ [last]) {imports : List String}
    (himports : imports ≠ []) (lineEnd : String) :
    OpensWithPackage (header imports lineEnd c) ↔ init ≠ [] := by
  rw [header_eq h hname]
  constructor
  · rintro hopens rfl
    rw [if_pos rfl, String.empty_append] at hopens
    exact not_opensWithPackage_importSection himports lineEnd hopens
  · intro hinit
    rw [if_neg hinit]
    exact ⟨".".intercalate init, lineEnd ++ lineEnd ++ importSection imports lineEnd,
      by simp only [String.append_assoc]⟩

/-- The declared class is named for the simple name. -/
theorem Outline.declaration_eq (o : Outline) (c : ClassInfo) : o.declaration c =
    "public class " ++ (c.simpleName.display ++ "Test") ++ " \x7b" ++ o.lineEnd := by
  have hopening : "Test " ++ openBrace = "Test" ++ " \x7b" := rfl
  calc
    o.declaration c = "public class " ++ c.simpleName.display ++ ("Test " ++ openBrace) ++
        o.lineEnd := congrArg (· ++ o.lineEnd) String.append_assoc
    _ = "public class " ++ (c.simpleName.display ++ "Test") ++ " \x7b" ++ o.lineEnd := by
      rw [hopening]
      simp only [String.append_assoc]

/-- The header is the first text of a body. -/
theorem Outline.exists_text_eq {o : Outline} {k : Nat} {body : Body} (h : o.body c k = .ok body) :
    ∃ rest, body.text = header o.imports o.lineEnd c ++ rest := by
  obtain ⟨field, -, rfl⟩ := Outcome.map_eq_ok.mp h
  exact ⟨_, by rw [Body.text, bodyWith, String.join_cons]⟩

namespace Placement

variable {l : Placement}

/-- A target starts where its base starts, if the base has more than slashes in it. -/
theorem anchor_target (c : ClassInfo) (h : ∃ x ∈ l.base.toList, x ≠ '/') :
    (l.target c).anchor = (Path.ofString l.base).anchor := by
  have htext : (l.base ++ l.separator ++ l.outputRoot ++ l.separator ++
      l.relativeText c.canonicalName).toList = l.base.toList ++
        (l.separator ++ l.outputRoot ++ l.separator ++ l.relativeText c.canonicalName).toList := by
    simp only [String.toList_append, List.append_assoc]
  rw [target, Path.ofString, Path.ofString, htext, Path.anchorOf_append h]

/-- The target of a class is below the base and the output root, in one directory for each part of
its package, which are the parts that its package statement has. There is a statement exactly if the
name has more than one part, and then it is the first text of the body. -/
theorem target_agrees_with_package (hsep : l.separator = "/") (hext : '/' ∉ l.extension.toList)
    (h : IsQualified c.canonicalName)
    (hname : Text.splitOn '.' c.canonicalName = init ++ [last]) :
    (l.target c).segments.map Segment.text =
        (Path.ofString l.base).segments.map Segment.text ++
          (Path.ofString l.outputRoot).segments.map Segment.text ++ init ++
            [last ++ "Test" ++ l.extension] ∧
      ((∃ x ∈ l.base.toList, x ≠ '/') →
        (l.target c).anchor = (Path.ofString l.base).anchor) ∧
      (∀ imports lineEnd, header imports lineEnd c =
        (if init = [] then "" else "package " ++ ".".intercalate init ++ ";" ++ lineEnd ++ lineEnd)
          ++ importSection imports lineEnd) ∧
      (∀ imports lineEnd, imports ≠ [] →
        (OpensWithPackage (header imports lineEnd c) ↔ 1 < (init ++ [last]).length)) ∧
      ∀ (o : Outline) k body, o.body c k = .ok body →
        ∃ rest, body.text = header o.imports o.lineEnd c ++ rest := by
  have hlength : 1 < (init ++ [last]).length ↔ init ≠ [] := by
    rw [List.length_append, List.length_singleton, ← List.length_pos_iff]
    omega
  refine ⟨?_, anchor_target c, header_eq h hname, fun imports lineEnd himports => ?_,
    fun o k body hbody => Outline.exists_text_eq hbody⟩
  · rw [segments_target hsep hext h hname, Path.ofString, Path.ofString, List.map_append,
      String.append_assoc]
    simp only [List.append_assoc]
  · rw [opensWithPackage_header_iff h hname himports, hlength]

/-- Slashes and dots too many in the base and the output root do not show in the target. -/
theorem target_agrees_with_package_of_three :
    let l : Placement := ⟨"/p//q/", "/out/./t/", ".java", "/"⟩
    let c : ClassInfo := { canonicalName := "a.b.Widget" }
    IsQualified c.canonicalName ∧ Text.splitOn '.' c.canonicalName = ["a", "b"] ++ ["Widget"] ∧
      (l.target c).segments.map Segment.text =
        ["p", "q", "out", "t", "a", "b", "WidgetTest.java"] ∧
      (l.target c).anchor = .root ∧
      header ["org.junit.Test"] "\n" c = "package a.b;\n\nimport org.junit.Test;\n\n" ∧
      OpensWithPackage (header ["org.junit.Test"] "\n" c) := by
  intro l c
  have h : IsQualified c.canonicalName := by decide
  have hname : Text.splitOn '.' c.canonicalName = ["a", "b"] ++ ["Widget"] := by decide
  obtain ⟨hsegments, hanchor, hheader, hopens, -⟩ :=
    l.target_agrees_with_package rfl (by decide) h hname
  refine ⟨h, hname, hsegments.trans (by decide), ?_, ?_, ?_⟩
  · exact (hanchor ⟨'p', by decide, by decide⟩).trans (by decide)
  · exact (hheader _ _).trans (by decide)
  · exact (hopens _ _ (List.cons_ne_nil _ _)).mpr (by decide)

/-- The name of a target is what follows the last dot or slash of the canonical name, with the
ending of test files. -/
theorem name_target (hsep : l.separator = "/") (hext : '/' ∉ l.extension.toList) (c : ClassInfo) :
    (l.target c).name =
      Text.afterLast '/' (Text.afterLast '.' c.canonicalName) ++ "Test" ++ l.extension := by
  obtain ⟨mid, file, hsegments, hfile⟩ := exists_segments_target hsep hext c
  rw [Path.name, hsegments, List.getLast?_append, List.getLast?_singleton, String.append_assoc,
    ← hfile]
  rfl

/-- A file is named for the canonical name of its class, the class that it declares for the simple
name. They agree exactly if the given name is what follows the last dot or slash of the canonical
name, or if none is given and no slash follows the last dot. -/
theorem name_target_eq_declared_iff (hsep : l.separator = "/") (hext : '/' ∉ l.extension.toList)
    (c : ClassInfo) (o : Outline) :
    (l.target c).name =
        Text.afterLast '/' (Text.afterLast '.' c.canonicalName) ++ "Test" ++ l.extension ∧
      o.declaration c =
        "public class " ++ (c.simpleName.display ++ "Test") ++ " \x7b" ++ o.lineEnd ∧
      ((l.target c).name = c.simpleName.display ++ "Test" ++ l.extension ↔
        (c.givenName.isTruthy = true →
          c.givenName.display = Text.afterLast '/' (Text.afterLast '.' c.canonicalName)) ∧
        (c.givenName.isTruthy = false → '/' ∉ (Text.afterLast '.' c.canonicalName).toList)) := by
  refine ⟨name_target hsep hext c, o.declaration_eq c, ?_⟩
  rw [name_target hsep hext c, String.append_left_inj, String.append_left_inj]
  cases hgiven : c.givenName.isTruthy with
  | true =>
    rw [ClassInfo.simpleName, if_pos hgiven]
    simp [eq_comm]
  | false =>
    rw [ClassInfo.simpleName, if_neg (by simp [hgiven]), Value.display_text,
      Text.afterLast_eq_self_iff]
    simp

/-- The file of a nested class is named for both classes where the nested one has its own name. -/
theorem name_target_ne_declared :
    let l : Placement := { base := "/p", outputRoot := "out" }
    let c : ClassInfo := { canonicalName := "a.Outer$Inner", givenName := .text "Inner" }
    (Outline.ofFramework .junit5 "\n").declaration c = "public class " ++ "InnerTest" ++ " \x7b\n" ∧
      (l.target c).name = "Outer$InnerTest.java" ∧
      (l.target c).name ≠ "InnerTest" ++ l.extension := by
  decide

/-- With the last part of the canonical name as its given name the class agrees with its file. -/
theorem name_target_eq_declared_inner :
    let l : Placement := { base := "/p", outputRoot := "out" }
    let c : ClassInfo := { canonicalName := "a.Outer.Inner", givenName := .text "Inner" }
    '/' ∉ l.extension.toList ∧
      (l.target c).name = c.simpleName.display ++ "Test" ++ l.extension := by
  intro l c
  have hext : '/' ∉ l.extension.toList := by decide
  refine ⟨hext, (l.name_target_eq_declared_iff rfl hext c (.ofFramework .junit5 "\n")).2.2.mpr ?_⟩
  exact ⟨fun _ => by decide, fun h => absurd h (by decide)⟩

end Placement
end TestSkeleton.Java
