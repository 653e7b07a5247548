import TestSkeleton.Proofs.Java.TestSection
import TestSkeleton.Proofs.Write.Records

/-!
# Layout of a test class

A test class as a list of lines. Four functions put the line ends into its text; each of them writes
lines with their line ends, and so the whole text is that of one list of lines. An empty line parts
the members from each other.

Specification: `SPEC_FULL.md:44–46` and `SPEC_FULL.md:80–81`.
-/

namespace TestSkeleton.Java

namespace Outline

/-- What stands before the set-up method in a test class. -/
def front (o : Outline) (c : ClassInfo) (field : Name) : String :=
  header o.imports o.lineEnd c ++ o.declaration c ++ o.field c field ++ o.lineEnd

/-- The text of a test class around its members. -/
theorem text_eq (o : Outline) (c : ClassInfo) (field : Name) (k : Nat) :
    (o.bodyWith c field k).text = o.front c field ++ o.setUp c field ++ o.lineEnd ++
      o.lineEnd.intercalate (o.tests c field k) ++ (closeBrace ++ o.lineEnd) := by
  rw [Body.text, bodyWith, front]
  simp only [String.join_cons, String.join_nil, String.append_empty, String.append_assoc]

end Outline

/-- The lines of a test class up to its field. -/
def headLines (imports : List String) (c : ClassInfo) (field : Name) : List String :=
  (if c.packageName = "" then [] else ["package " ++ c.packageName ++ ";", ""]) ++
    imports.map (fun name => "import " ++ name ++ ";") ++
    ["", "public class " ++ c.simpleName.display ++ "Test " ++ openBrace,
      "\tprivate " ++ c.simpleName.display ++ " " ++ field.display ++ ";"]

/-- The lines of the set-up method of a class. -/
def setUpLines (f : Framework) (c : ClassInfo) (field : Name) : List String :=
  memberLines "\t" f.setUpAnnotation "public void setUp" (setUpStatement c field)

/-- The lines of the test of a method for a variant. -/
def Method.testLines (f : Framework) (field : Name) (m : Method) (v : Nat) : List String :=
  memberLines "\t" f.testAnnotation ("public void " ++ m.testName v) (m.testStatement field v)

/-- The lines of each test of a class. -/
def ClassInfo.testLines (f : Framework) (c : ClassInfo) (field : Name) (k : Nat) :
    List (List String) :=
  c.publicMethods.flatMap fun m => (List.range k).map (m.testLines f field)

/-- The lines of a test class. -/
def ClassInfo.lines (f : Framework) (c : ClassInfo) (field : Name) (k : Nat) : List String :=
  headLines f.imports c field ++ [""] ++ setUpLines f c field ++ [""] ++
    [""].intercalate (c.testLines f field k) ++ [closeBrace]

/-- A member is its lines. -/
theorem joinLines_memberLines (lineEnd indent marker head statement : String) :
    joinLines lineEnd (memberLines indent marker head statement) =
      Records.join lineEnd (memberLines indent marker head statement) :=
  Records.intercalate_append (List.cons_ne_nil _ _)

/-- The set-up method is its lines. -/
theorem setUp_eq (f : Framework) (lineEnd : String) (c : ClassInfo) (field : Name) :
    (Outline.ofFramework f lineEnd).setUp c field =
      Records.join lineEnd (setUpLines f c field) := by
  simp only [Outline.ofFramework, setUp, joinLines_memberLines, setUpLines]

/-- A test is its lines. -/
theorem test_eq (f : Framework) (lineEnd : String) (m : Method) (field : Name) (v : Nat) :
    (Outline.ofFramework f lineEnd).test m field v =
      Records.join lineEnd (m.testLines f field v) := by
  simp only [Outline.ofFramework, Method.test, joinLines_memberLines, Method.testLines]

/-- The tests of a class are their lines. -/
theorem tests_eq (f : Framework) (lineEnd : String) (c : ClassInfo) (field : Name) (k : Nat) :
    (Outline.ofFramework f lineEnd).tests c field k =
      (c.testLines f field k).map (Records.join lineEnd) := by
  have htests (m : Method) :
      (List.range k).map (fun v => (Outline.ofFramework f lineEnd).test m field v) =
        ((List.range k).map (m.testLines f field)).map (Records.join lineEnd) := by
    rw [List.map_map]
    refine List.map_congr_left fun v _ => ?_
    rw [test_eq, Function.comp_apply]
  rw [Outline.tests, ClassInfo.testLines, List.map_flatMap]
  simp only [htests]

/-- A class has as many tests as it has public methods, times the variants. -/
theorem ClassInfo.length_testLines (f : Framework) (c : ClassInfo) (field : Name) (k : Nat) :
    (c.testLines f field k).length = c.publicMethods.length * k := by
  rw [← List.length_map (Records.join ""), ← tests_eq, Outline.length_tests]

/-- The tests of a class go method by method, and for each method variant by variant. -/
theorem ClassInfo.getElem?_testLines (f : Framework) (c : ClassInfo) (field : Name) {k j : Nat}
    (hj : j < c.publicMethods.length * k) :
    ∃ m, c.publicMethods[j / k]? = some m ∧
      (c.testLines f field k)[j]? = some (m.testLines f field (j % k)) :=
  Outline.exists_getElem?_flatMap_range (Method.testLines f field) hj

/-- Every test of a class is of one of its public methods. -/
theorem ClassInfo.exists_of_mem_testLines {f : Framework} {c : ClassInfo} {field : Name} {k : Nat}
    {test : List String} (h : test ∈ c.testLines f field k) :
    ∃ m ∈ c.publicMethods, ∃ v, test = m.testLines f field v := by
  obtain ⟨m, hm, htest⟩ := List.mem_flatMap.mp h
  obtain ⟨v, -, rfl⟩ := List.mem_map.mp htest
  exact ⟨m, hm, v, rfl⟩

/-- What comes before the members is its lines and an empty one. -/
theorem front_eq (f : Framework) (lineEnd : String) (c : ClassInfo) (field : Name) :
    (Outline.ofFramework f lineEnd).front c field =
      Records.join lineEnd (headLines f.imports c field) ++ lineEnd := by
  have himports : String.join (f.imports.map (importStatement lineEnd)) =
      Records.join lineEnd (f.imports.map fun name => "import " ++ name ++ ";") := by
    rw [Records.join, List.map_map]
    rfl
  have hpackage : packageStatement lineEnd c.packageName = Records.join lineEnd
      (if c.packageName = "" then [] else ["package " ++ c.packageName ++ ";", ""]) := by
    rw [packageStatement]
    split
    · rw [Records.join_nil]
    · rw [Records.join_cons, Records.join_singleton, String.empty_append]
  have hdeclaration : (Outline.ofFramework f lineEnd).declaration c =
      "public class " ++ c.simpleName.display ++ "Test " ++ openBrace ++ lineEnd := rfl
  have hfield : (Outline.ofFramework f lineEnd).field c field =
      "\tprivate " ++ c.simpleName.display ++ " " ++ field.display ++ ";" ++ lineEnd := rfl
  have hlineEnd : (Outline.ofFramework f lineEnd).lineEnd = lineEnd := rfl
  have hheader : (Outline.ofFramework f lineEnd).imports = f.imports := rfl
  rw [Outline.front, hlineEnd, hheader, header, hpackage, himports, hdeclaration, hfield, headLines,
    Records.join_append, Records.join_append]
  simp only [Records.join_cons, Records.join_nil, String.append_empty, String.empty_append,
    String.append_assoc]

/-- The text of a test class is its lines. -/
theorem text_bodyWith (f : Framework) (lineEnd : String) (c : ClassInfo) (field : Name) (k : Nat) :
    ((Outline.ofFramework f lineEnd).bodyWith c field k).text =
      Records.join lineEnd (c.lines f field k) := by
  have hlineEnd : (Outline.ofFramework f lineEnd).lineEnd = lineEnd := rfl
  rw [Outline.text_eq, hlineEnd, front_eq, setUp_eq, tests_eq, Records.intercalate_map_join,
    ClassInfo.lines]
  simp only [Records.join_append, Records.join_singleton, String.empty_append, String.append_assoc]

end TestSkeleton.Java
