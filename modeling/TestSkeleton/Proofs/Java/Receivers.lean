import TestSkeleton.Proofs.Java.TestSection
import TestSkeleton.Proofs.Text.FirstLetter

/-!
# What tests call on

The field of a test class and what the calls in its tests go to. Both are made from the simple name:
the field by putting its first letter in lower case, the receiver of a static method by putting that
of the field in upper case again. The local variable for a result has a fixed name.

Specification: `SPEC_FULL.md:164–166`.
-/

namespace TestSkeleton.Java

namespace Method

/-- The name of the local variable that keeps the result of a call, if there is a result. -/
def resultName? (m : Method) : Option String :=
  if m.returnType = "void" then none else some "result"

/-- The declaration of that variable, up to the call. -/
def resultDeclaration (m : Method) : String :=
  (m.resultName?.map fun name => m.returnType ++ " " ++ name ++ " = ").getD ""

/-- The test of a method for a variant in which the call goes to a given receiver. -/
def testOn (f : Framework) (lineEnd : String) (m : Method) (variant : Nat) (receiver : String) :
    String :=
  joinLines lineEnd
    (memberLines "\t" f.testAnnotation ("public void " ++ m.testName variant)
      (m.resultDeclaration ++
        (receiver ++ "." ++ m.name ++ "(" ++ arguments m.parameters variant ++ ");")))

variable (f : Framework) (lineEnd : String) (m : Method) (variant : Nat)

/-- The test shows what its call goes to. -/
theorem testOn_inj {receiver receiver' : String} :
    m.testOn f lineEnd variant receiver = m.testOn f lineEnd variant receiver' ↔
      receiver = receiver' := by
  simp [testOn, joinLines, memberLines, ← String.toList_inj]

/-- The statement of a test declares the result, where there is one, and calls the method. -/
theorem testStatement_eq (field : Name) (variant : Int) :
    m.testStatement field variant = m.resultDeclaration ++ m.call field variant := by
  unfold testStatement resultDeclaration resultName?
  split <;> simp [String.append_assoc]

/-- A test calls its method on its receiver. -/
theorem test_eq_testOn (field : Name) :
    m.test { framework := f, lineEnd } field variant =
      m.testOn f lineEnd variant (m.receiver field).display := by
  rw [test, testStatement_eq]
  rfl

/-- A static method is called on the name of the field with its first letter in upper case. -/
theorem receiver_of_isStatic {m : Method} (h : m.isStatic = true) (s : String) :
    (m.receiver (.text s)).display = Text.capitalize s := by
  rw [receiver, if_pos h, Name.capitalize_text, Name.display_text]

/-- An instance method is called on the field. -/
theorem receiver_of_not_isStatic {m : Method} (h : m.isStatic = false) (s : String) :
    (m.receiver (.text s)).display = s := by
  rw [receiver, if_neg (by simp [h]), Name.display_text]

end Method

namespace Outline

variable {c : ClassInfo} {s : String}

/-- The test of a variant of a public method stands where the variants of the methods before it
end. -/
theorem getElem?_tests_of_publicMethods {o : Outline} {field : Name} {k i v : Nat} {m : Method}
    (hm : c.publicMethods[i]? = some m) (hv : v < k) :
    (o.tests c field k)[i * k + v]? = some (o.test m field v) := by
  have hk : 0 < k := Nat.zero_lt_of_lt hv
  have hi : i < c.publicMethods.length := (List.getElem?_eq_some_iff.mp hm).1
  have hrows : (i + 1) * k ≤ c.publicMethods.length * k := Nat.mul_le_mul_right k hi
  have hj : i * k + v < c.publicMethods.length * k := by
    rw [Nat.succ_mul] at hrows
    omega
  obtain ⟨m', hm', htest⟩ := o.getElem?_tests c field hj
  rw [Nat.mul_comm i k, Nat.mul_add_div hk, Nat.div_eq_of_lt hv, Nat.add_zero, hm] at hm'
  obtain rfl := Option.some.inj hm'
  rw [htest, Nat.mul_comm i k, Nat.mul_add_mod, Nat.mod_eq_of_lt hv]

-- What a test class of a class with a textual name consists of, as far as names are concerned: the
-- field is declared with the name that the tests get, the simple name with its first letter in
-- lower case.
private theorem exists_tests (f : Framework) (lineEnd : String) (hs : c.simpleName = .text s)
    (k : Nat) : ∃ body tests, (ofFramework f lineEnd).body c k = .ok body ∧
      body.fragments[2]? =
        some ("\tprivate " ++ s ++ " " ++ Text.decapitalize s ++ ";" ++ lineEnd) ∧
      body.fragments[6]? = some (lineEnd.intercalate tests) ∧
      ∀ i m, c.publicMethods[i]? = some m → ∀ v < k, tests[i * k + v]? =
        some (m.testOn f lineEnd v (m.receiver (.text (Text.decapitalize s))).display) := by
  have hname : Name.ofValue c.simpleName = .ok (.text s) := by
    rw [hs]
    rfl
  have hfield : (ofFramework f lineEnd).field c (.text (Text.decapitalize s)) =
      "\tprivate " ++ s ++ " " ++ Text.decapitalize s ++ ";" ++ lineEnd := by
    rw [field, hs]
    rfl
  refine ⟨_, _, body_of_name hname, congrArg some hfield, rfl, fun i m hm v hv => ?_⟩
  rw [Name.decapitalize_text, getElem?_tests_of_publicMethods hm hv]
  exact congrArg some (m.test_eq_testOn f lineEnd v _)

/-- The call in a test of a static method goes to the simple name with its first letter lowered and
raised again. That is the class exactly if the first letter is neither a small letter that has an
upper case nor one of the capital letters that do not come back. -/
theorem static_receiver_eq_iff (f : Framework) (lineEnd : String) (hs : c.simpleName = .text s)
    (k : Nat) : ∃ body tests, (ofFramework f lineEnd).body c k = .ok body ∧
      body.fragments[6]? = some (lineEnd.intercalate tests) ∧
      (∀ i m, c.publicMethods[i]? = some m → m.isStatic = true → ∀ v < k,
        tests[i * k + v]? =
          some (m.testOn f lineEnd v (Text.capitalize (Text.decapitalize s)))) ∧
      (Text.capitalize (Text.decapitalize s) = s ↔ ∀ letter, s.toList.head? = some letter →
        (Text.lowerChar letter = [letter] → Text.upperChar letter = [letter]) ∧
          letter ∉ Text.oneWayCapitals) := by
  obtain ⟨body, tests, hbody, -, hsection, htests⟩ := exists_tests f lineEnd hs k
  refine ⟨body, tests, hbody, hsection, fun i m hm hstatic v hv => ?_,
    Text.capitalize_decapitalize_eq_iff s⟩
  rw [htests i m hm v hv, Method.receiver_of_isStatic hstatic]

/-- A class with an instance method that has a result and a static one. -/
def reader : ClassInfo where
  canonicalName := "a.URLReader"
  methods := [{ name := "size", returnType := "int" }, { name := "parse", isStatic := true }]

private theorem simpleName_reader : reader.simpleName = .text "URLReader" :=
  congrArg Value.text (by decide : Text.afterLast '.' "a.URLReader" = "URLReader")

/-- The second test of the static method is the fourth one, and it names the class. -/
theorem static_receiver_eq_reader :
    reader.simpleName = .text "URLReader" ∧
      ∃ body tests, (ofFramework .junit5 "\n").body reader 2 = .ok body ∧
        body.fragments[6]? = some ("\n".intercalate tests) ∧
        tests[3]? = some ("\t@Test\n\tpublic void testParse1() throws Exception \x7b\n" ++
          "\t\tURLReader.parse();\n\t\x7d\n") := by
  obtain ⟨body, tests, hbody, hsection, htests, hreceiver⟩ :=
    static_receiver_eq_iff .junit5 "\n" simpleName_reader 2
  have hclass : Text.capitalize (Text.decapitalize "URLReader") = "URLReader" := by
    refine hreceiver.mpr fun letter hletter => ?_
    obtain rfl : 'U' = letter := Option.some.inj hletter
    decide
  have htest := htests 1 _ rfl rfl 1 (by decide)
  rw [hclass] at htest
  exact ⟨simpleName_reader, body, tests, hbody, hsection, htest.trans (congrArg some (by decide))⟩

/-- The static method of a class that starts with a small letter is called on another name. -/
theorem static_receiver_ne_lowercase :
    let parse : Method := { name := "parse", isStatic := true }
    let c : ClassInfo := { canonicalName := "a.widget", methods := [parse] }
    c.simpleName = .text "widget" ∧ parse ∈ c.publicMethods ∧ parse.isStatic = true ∧
      ∃ body, (ofFramework .junit5 "\n").body c 1 = .ok body ∧
        body.fragments[6]? = some (parse.testOn .junit5 "\n" 0 "Widget") ∧
        parse.testOn .junit5 "\n" 0 "Widget" ≠ parse.testOn .junit5 "\n" 0 "widget" := by
  intro parse c
  have hs : c.simpleName = .text "widget" :=
    congrArg Value.text (by decide : Text.afterLast '.' "a.widget" = "widget")
  have hname : Name.ofValue c.simpleName = .ok (.text "widget") := congrArg Name.ofValue hs
  have hreceiver : "Widget" ≠ "widget" := by decide
  exact ⟨hs, by decide, rfl, _, body_of_name hname, congrArg some (by decide),
    fun h => hreceiver ((Method.testOn_inj ..).mp h)⟩

/-- The call in a test of an instance method goes to the name that the field is declared with. A
local variable of the same statement takes it over exactly if the method has a result and the class
is called like that variable, its first letter in upper or in lower case. -/
theorem instance_receiver_ne_resultName_iff (f : Framework) (lineEnd : String)
    (hs : c.simpleName = .text s) (k : Nat) : ∃ body tests,
      (ofFramework f lineEnd).body c k = .ok body ∧
      body.fragments[2]? =
        some ("\tprivate " ++ s ++ " " ++ Text.decapitalize s ++ ";" ++ lineEnd) ∧
      body.fragments[6]? = some (lineEnd.intercalate tests) ∧
      ∀ i m, c.publicMethods[i]? = some m → m.isStatic = false → ∀ v < k,
        tests[i * k + v]? = some (m.testOn f lineEnd v (Text.decapitalize s)) ∧
        ((∀ name, m.resultName? = some name → name ≠ Text.decapitalize s) ↔
          m.returnType = "void" ∨ s ≠ "Result" ∧ s ≠ "result") := by
  obtain ⟨body, tests, hbody, hfield, hsection, htests⟩ := exists_tests f lineEnd hs k
  refine ⟨body, tests, hbody, hfield, hsection, fun i m hm hinstance v hv => ⟨?_, ?_⟩⟩
  · rw [htests i m hm v hv, Method.receiver_of_not_isStatic hinstance]
  · rw [Method.resultName?]
    by_cases hvoid : m.returnType = "void"
    · simp [hvoid]
    · have hname := not_congr (Text.decapitalize_eq_result_iff s)
      rw [not_or, eq_comm] at hname
      simpa [hvoid] using hname

/-- The field that the test of the instance method uses is not the variable for its result. -/
theorem instance_receiver_ne_result_reader :
    reader.simpleName = .text "URLReader" ∧
      ∃ body tests, (ofFramework .junit5 "\n").body reader 2 = .ok body ∧
        body.fragments[2]? = some "\tprivate URLReader uRLReader;\n" ∧
        body.fragments[6]? = some ("\n".intercalate tests) ∧
        tests[1]? = some ("\t@Test\n\tpublic void testSize1() throws Exception \x7b\n" ++
          "\t\tint result = uRLReader.size();\n\t\x7d\n") ∧
        ∀ name, Method.resultName? { name := "size", returnType := "int" } = some name →
          name ≠ "uRLReader" := by
  have hfield : Text.decapitalize "URLReader" = "uRLReader" := by decide
  obtain ⟨body, tests, hbody, hdeclaration, hsection, htests⟩ :=
    instance_receiver_ne_resultName_iff .junit5 "\n" simpleName_reader 2
  obtain ⟨htest, hname⟩ := htests 0 _ rfl rfl 1 (by decide)
  rw [hfield] at hdeclaration htest hname
  exact ⟨simpleName_reader, body, tests, hbody, hdeclaration.trans (congrArg some (by decide)),
    hsection, htest.trans (congrArg some (by decide)), hname.mpr (.inr ⟨by decide, by decide⟩)⟩

/-- A variable of the statement takes over the field of a class that is called like it. -/
theorem instance_receiver_eq_resultName :
    let size : Method := { name := "size", returnType := "int" }
    let c : ClassInfo := { canonicalName := "a.Result", methods := [size] }
    c.simpleName = .text "Result" ∧ size ∈ c.publicMethods ∧ size.isStatic = false ∧
      ∃ body, (ofFramework .junit5 "\n").body c 1 = .ok body ∧
        body.fragments[2]? = some "\tprivate Result result;\n" ∧
        body.fragments[6]? = some (size.testOn .junit5 "\n" 0 "result") ∧
        size.resultName? = some "result" := by
  intro size c
  have hs : c.simpleName = .text "Result" :=
    congrArg Value.text (by decide : Text.afterLast '.' "a.Result" = "Result")
  have hname : Name.ofValue c.simpleName = .ok (.text "Result") := congrArg Name.ofValue hs
  exact ⟨hs, by decide, rfl, _, body_of_name hname, congrArg some (by decide),
    congrArg some (by decide), rfl⟩

end Outline
end TestSkeleton.Java
