import TestSkeleton.Proofs.Java.Characters
import TestSkeleton.Proofs.Java.Layout
import TestSkeleton.Proofs.Text.Nesting

/-!
# Nesting of a test class

Braces and parentheses of a test class. Names and types bring none in; those of samples, calls and
members come in pairs. The class has a brace open while its members are written, and each member
opens and closes one of its own.

Specification: `SPEC_FULL.md:46` and `SPEC_FULL.md:70`.
-/

namespace TestSkeleton.Java

open Text

variable {f : Framework} {c : ClassInfo} {m : Method} {name field : Name} {lineEnd : String}

/-- Samples close the parentheses that they open. -/
theorem turns_sample {type : String} (h : Lacks Bracket.marks type) (v : Int) :
    Turns [] (sample type v) [] 0 := by
  have hlisted : ∀ s ∈ listedSamples, Turns [] s [] 0 := by decide
  have hform := isSampleOf_sample type v
  generalize sample type v = s at hform
  cases hform with
  | listed hs => exact hlisted _ hs
  | array helement dims =>
    exact .of_lacks (lacks_newArray (by decide) (TypeText.lacks_erase h) helement dims)

/-- The arguments of a call are in parentheses. -/
theorem turns_call {callee : String} {parameters : List Parameter} (hcallee : Turns [] callee [] 0)
    (h : ∀ p ∈ parameters, Lacks Bracket.marks p.type) (v : Int) :
    Turns [] (callee ++ "(" ++ arguments parameters v ++ ");") [] 0 := by
  have hsep : Turns [] ", " [] 0 := by decide
  have hsamples : ∀ s ∈ parameters.map fun p => sample p.type v, Turns [] s [] 0 := by
    intro s hs
    obtain ⟨p, hp, rfl⟩ := List.mem_map.mp hs
    exact turns_sample (h p hp) v
  have hopen : Turns [] "(" [.paren] 0 := by decide
  have hclose : Turns [.paren] ");" [] 0 := by decide
  have harguments := (Turns.intercalate hsep hsamples).append_stack [.paren]
  exact ((hcallee.append hopen).append harguments).append hclose

/-! ### Lines -/

/-- Records with their line ends, each of which closes what it opens. -/
theorem turns_join {rs : List String} {n : Nat} (hlineEnd : Turns [] lineEnd [] 0)
    (h : ∀ r ∈ rs, Turns [] r [] n) : Turns [] (Records.join lineEnd rs) [] (rs.length * n) := by
  rw [Records.join, ← List.length_map (· ++ lineEnd)]
  refine .join fun s hs => ?_
  obtain ⟨r, hr, rfl⟩ := List.mem_map.mp hs
  exact (h r hr).append hlineEnd

/-- The lines of a member open one brace and close it. -/
theorem turns_memberLines {marker head statement : String} (hlineEnd : Turns [] lineEnd [] 0)
    (hmarker : Turns [] marker [] 0) (hhead : Turns [] head [] 0)
    (hstatement : Turns [] statement [] 0) :
    Turns [] (Records.join lineEnd (memberLines "\t" marker head statement)) [] 1 := by
  have htab : Turns [] "\t" [] 0 := by decide
  have hparens : Turns [] "() throws Exception " [] 0 := by decide
  have hopen : Turns [] openBrace [.brace] 1 := by decide
  have hclose : Turns [.brace] closeBrace [] 0 := by decide
  have hopened := ((((htab.append hhead).append hparens).append hopen)).append
    (hlineEnd.append_stack [.brace])
  have hinside := (((htab.append htab).append hstatement).append hlineEnd).append_stack [.brace]
  have hclosed := ((htab.append_stack [.brace]).append hclose).append hlineEnd
  rw [memberLines, Records.join_cons, Records.join_cons, Records.join_cons, Records.join_singleton]
  exact ((htab.append hmarker).append hlineEnd).append (hopened.append (hinside.append hclosed))

/-- The lines up to the field leave the brace of the class open. -/
theorem turns_headLines (hf : f ∈ Framework.known) (hlineEnd : Turns [] lineEnd [] 0)
    (hcanonical : Lacks Bracket.marks c.canonicalName)
    (hclass : Lacks Bracket.marks c.simpleName.display)
    (hfield : Lacks Bracket.marks field.display) :
    Turns [] (Records.join lineEnd (headLines f.imports c field)) [.brace] 1 := by
  have hempty : Turns [] "" [] 0 := .empty []
  have hpackage : ∀ line ∈ if c.packageName = "" then [] else ["package " ++ c.packageName ++ ";", ""],
      Turns [] line [] 0 := by
    split
    · exact List.forall_mem_nil _
    · have hstart : Turns [] "package " [] 0 := by decide
      have hend : Turns [] ";" [] 0 := by decide
      have hname := Turns.of_lacks (ClassInfo.lacks_packageName hcanonical)
      simp only [List.forall_mem_cons]
      exact ⟨(hstart.append hname).append hend, hempty, List.forall_mem_nil _⟩
  have himports : ∀ f ∈ Framework.known, ∀ line ∈ f.imports.map fun name => "import " ++ name ++ ";",
      Turns [] line [] 0 := by decide
  have hclosed := turns_join hlineEnd (List.forall_mem_append.mpr ⟨hpackage, himports f hf⟩)
  have hclassName := Turns.of_lacks hclass
  have hdeclaration : Turns []
      ("public class " ++ c.simpleName.display ++ "Test " ++ openBrace ++ lineEnd) [.brace] 1 := by
    have hstart : Turns [] "public class " [] 0 := by decide
    have hend : Turns [] "Test " [] 0 := by decide
    have hopen : Turns [] openBrace [.brace] 1 := by decide
    exact (((hstart.append hclassName).append hend).append hopen).append
      (hlineEnd.append_stack [.brace])
  have hfieldLine : Turns [] ("\tprivate " ++ c.simpleName.display ++ " " ++ field.display ++ ";" ++
      lineEnd) [] 0 := by
    have hstart : Turns [] "\tprivate " [] 0 := by decide
    have hblank : Turns [] " " [] 0 := by decide
    have hend : Turns [] ";" [] 0 := by decide
    exact ((((hstart.append hclassName).append hblank).append (.of_lacks hfield)).append hend).append
      hlineEnd
  rw [headLines, Records.join_append, Records.join_cons, Records.join_cons, Records.join_singleton]
  exact hclosed.append ((hempty.append hlineEnd).append
    (hdeclaration.append (hfieldLine.append_stack [.brace])))

/-- The set-up method closes all brackets that it opens, with one pair of braces. -/
theorem turns_setUpLines (hf : f ∈ Framework.known) (hlineEnd : Turns [] lineEnd [] 0)
    (hclass : Lacks Bracket.marks c.simpleName.display) (hfield : Lacks Bracket.marks field.display)
    (htypes : ∀ p ∈ c.constructorParameters, Lacks Bracket.marks p.type) :
    Turns [] (Records.join lineEnd (setUpLines f c field)) [] 1 := by
  have hmarker : ∀ f ∈ Framework.known, Turns [] f.setUpAnnotation [] 0 := by decide
  have hhead : Turns [] "public void setUp" [] 0 := by decide
  have hnew : Turns [] " = new " [] 0 := by decide
  have hcallee := ((Turns.of_lacks hfield).append hnew).append (.of_lacks hclass)
  exact turns_memberLines hlineEnd (hmarker f hf) hhead (turns_call hcallee htypes 0)

/-- A test closes all brackets that it opens, with one pair of braces. -/
theorem turns_testLines (hf : f ∈ Framework.known) (hlineEnd : Turns [] lineEnd [] 0)
    (hfield : Lacks Bracket.marks field.display) (hm : ∀ t ∈ m.texts, Lacks Bracket.marks t)
    (v : Nat) : Turns [] (Records.join lineEnd (m.testLines f field v)) [] 1 := by
  obtain ⟨hname, hreturn, htypes⟩ := Method.forall_texts_iff.mp hm
  have hmarker : ∀ f ∈ Framework.known, Turns [] f.testAnnotation [] 0 := by decide
  have hvoid : Turns [] "public void " [] 0 := by decide
  have htest := Turns.of_lacks (m.lacks_testName (by decide) hm v)
  have hreceiver := Turns.of_lacks (m.lacks_receiver (by decide) hfield)
  have hdot : Turns [] "." [] 0 := by decide
  have hcall : Turns [] (m.call field v) [] 0 :=
    turns_call ((hreceiver.append hdot).append (.of_lacks hname)) htypes v
  have hstatement : Turns [] (m.testStatement field v) [] 0 := by
    rw [Method.testStatement]
    split
    · exact hcall
    · have hresult : Turns [] " result = " [] 0 := by decide
      exact ((Turns.of_lacks hreturn).append hresult).append hcall
  exact turns_memberLines hlineEnd (hmarker f hf) (hvoid.append htest) hstatement

namespace Outline

/-! ### Members -/

section

variable (hf : f ∈ Framework.known) (hlineEnd : Lacks Bracket.marks lineEnd)
  (h : ∀ t ∈ c.texts name, Lacks Bracket.marks t)

include hf hlineEnd h

/-- What comes before the set-up method leaves the brace of the class open. -/
theorem turns_front :
    Turns [] ((ofFramework f lineEnd).front c name.decapitalize) [.brace] 1 := by
  obtain ⟨hcanonical, hclass, hdisplay, -⟩ := ClassInfo.forall_texts_iff.mp h
  have hclosed : Turns [] lineEnd [] 0 := .of_lacks hlineEnd
  rw [front_eq]
  exact (turns_headLines hf hclosed hcanonical hclass
    (Name.lacks_decapitalize (by decide) hdisplay)).append (hclosed.append_stack [.brace])

/-- The set-up method closes what it opens. -/
theorem turns_setUp : Turns [] ((ofFramework f lineEnd).setUp c name.decapitalize) [] 1 := by
  obtain ⟨-, hclass, hdisplay, htypes, -⟩ := ClassInfo.forall_texts_iff.mp h
  rw [setUp_eq]
  exact turns_setUpLines hf (.of_lacks hlineEnd) hclass
    (Name.lacks_decapitalize (by decide) hdisplay) htypes

/-- Every test closes what it opens. -/
theorem turns_of_mem_tests {k : Nat} {test : String}
    (htest : test ∈ (ofFramework f lineEnd).tests c name.decapitalize k) : Turns [] test [] 1 := by
  obtain ⟨-, -, hdisplay, -, hmethods⟩ := ClassInfo.forall_texts_iff.mp h
  rw [tests_eq] at htest
  obtain ⟨lines, hlines, rfl⟩ := List.mem_map.mp htest
  obtain ⟨m, hm, v, rfl⟩ := ClassInfo.exists_of_mem_testLines hlines
  exact turns_testLines hf (.of_lacks hlineEnd) (Name.lacks_decapitalize (by decide) hdisplay)
    (hmethods m hm) v

/-- The first test starts where the brace of the class is the only open bracket. -/
theorem turns_beforeTests :
    Turns [] ((ofFramework f lineEnd).front c name.decapitalize ++
      (ofFramework f lineEnd).setUp c name.decapitalize ++ lineEnd) [.brace] 2 :=
  ((turns_front hf hlineEnd h).append ((turns_setUp hf hlineEnd h).append_stack [.brace])).append
    ((Turns.of_lacks hlineEnd).append_stack [.brace])

/-- A test class closes the brace of the class behind its tests. -/
theorem turns_bodyWith (k : Nat) :
    Turns [] ((ofFramework f lineEnd).bodyWith c name.decapitalize k).text []
      (2 + c.publicMethods.length * k) := by
  have hclosed : Turns [] lineEnd [] 0 := .of_lacks hlineEnd
  have htests := Turns.intercalate hclosed fun test htest =>
    turns_of_mem_tests (k := k) hf hlineEnd h htest
  have hclose : Turns [.brace] closeBrace [] 0 := by decide
  rw [length_tests, Nat.mul_one] at htests
  rw [text_eq]
  exact ((turns_beforeTests hf hlineEnd h).append (htests.append_stack [.brace])).append
    (hclose.append hclosed)

end

/-- Every test class is well nested, if no text of the class and no line end has brackets. It has
one brace for the class, one for the set-up method and one for each test. No beginning of it closes
more brackets than it opens. The set-up method and every test start and end where the brace of the
class is the only open bracket. -/
theorem wellNested_body (hf : f ∈ Framework.known) (hlineEnd : Lacks Bracket.marks lineEnd)
    (hname : Name.ofValue c.simpleName = .ok name) (h : ∀ t ∈ c.texts name, Lacks Bracket.marks t)
    (k : Nat) :
    let o := ofFramework f lineEnd
    let field := name.decapitalize
    ∃ body, o.body c k = .ok body ∧ WellNested body.text ∧
      body.text.toList.count '\x7b' = 2 + c.publicMethods.length * k ∧
      body.text.toList.count '\x7d' = 2 + c.publicMethods.length * k ∧
      (∀ s t, body.text = s ++ t → ∃ stack, unclosed [] s = some stack ∧
        ∀ b : Bracket, s.toList.count b.opening = s.toList.count b.closing + stack.count b) ∧
      StandsAt [.brace] body.text (o.front c field) (o.setUp c field) ∧
      ∀ done test rest, o.tests c field k = done ++ test :: rest →
        StandsAt [.brace] body.text
          (o.front c field ++ o.setUp c field ++ lineEnd ++ Records.join lineEnd done) test := by
  intro o field
  have hsetUp := (turns_setUp hf hlineEnd h).append_stack [.brace]
  have hbody := turns_bodyWith hf hlineEnd h k
  have hnested : WellNested (o.bodyWith c field k).text := hbody.unclosed
  have hcount := count_of_unclosed hbody.unclosed .brace
  rw [hbody.count, List.count_nil, Nat.add_zero, Nat.add_zero] at hcount
  have htext : (o.bodyWith c field k).text = o.front c field ++ o.setUp c field ++ lineEnd ++
      lineEnd.intercalate (o.tests c field k) ++ (closeBrace ++ lineEnd) := text_eq o c field k
  refine ⟨_, body_of_name hname, hnested, hbody.count, hcount.symm, fun s t hst => ?_, ?_, ?_⟩
  · rw [hst] at hnested
    exact hnested.of_append
  · refine ⟨⟨lineEnd ++ lineEnd.intercalate (o.tests c field k) ++ (closeBrace ++ lineEnd), ?_⟩,
      (turns_front hf hlineEnd h).unclosed, ((turns_front hf hlineEnd h).append hsetUp).unclosed⟩
    rw [htext]
    simp only [String.append_assoc]
  · intro done test rest hsplit
    have hmem {s : String} (hs : s ∈ done ++ test :: rest) : Turns [] s [] 1 :=
      turns_of_mem_tests hf hlineEnd h (hsplit ▸ hs)
    have hdone := turns_join (.of_lacks hlineEnd) fun s hs => hmem (List.mem_append_left _ hs)
    have htest := hmem (List.mem_append_right done List.mem_cons_self)
    have hstart := (turns_beforeTests hf hlineEnd h).append (hdone.append_stack [.brace])
    refine ⟨?_, hstart.unclosed, (hstart.append (htest.append_stack [.brace])).unclosed⟩
    obtain ⟨after, hafter⟩ := Records.exists_intercalate_cons lineEnd test rest
    refine ⟨after ++ (closeBrace ++ lineEnd), ?_⟩
    rw [htext, hsplit, ← Records.join_append_intercalate done (List.cons_ne_nil test rest), hafter]
    simp only [String.append_assoc]

/-- Casts and constructor calls among the samples do not get in the way: the second test stands
where the first one does. -/
theorem wellNested_body_with_casts :
    let run : Method := { name := "run", parameters := [⟨"b", "byte"⟩, ⟨"o", "Object"⟩] }
    let stop : Method := { name := "stop", returnType := "int" }
    let c : ClassInfo := {
      canonicalName := "a.Widget", methods := [run, stop]
      constructorParameters := [⟨"items", "java.util.List<String>[]"⟩] }
    let o := ofFramework .junit4 "\n"
    Framework.junit4 ∈ Framework.known ∧ Lacks Bracket.marks "\n" ∧
      Name.ofValue c.simpleName = .ok (.text "Widget") ∧
      (∀ t ∈ c.texts (.text "Widget"), Lacks Bracket.marks t) ∧
      o.tests c (.text "widget") 1 =
        [o.test run (.text "widget") 0] ++ o.test stop (.text "widget") 0 :: [] ∧
      ∃ body, o.body c 1 = .ok body ∧ WellNested body.text ∧
        body.text.toList.count '\x7b' = 4 ∧
        StandsAt [.brace] body.text (o.front c (.text "widget") ++ o.setUp c (.text "widget") ++ "\n" ++
          Records.join "\n" [o.test run (.text "widget") 0]) (o.test stop (.text "widget") 0) := by
  intro run stop c o
  have hf : Framework.junit4 ∈ Framework.known := by decide
  have hlineEnd : Lacks Bracket.marks "\n" := by decide
  have hname : Name.ofValue c.simpleName = .ok (.text "Widget") := by decide
  have htexts : ∀ t ∈ c.texts (.text "Widget"), Lacks Bracket.marks t := by decide
  have hfield : Name.decapitalize (.text "Widget") = .text "widget" := by decide
  have htests : o.tests c (.text "widget") 1 =
      [o.test run (.text "widget") 0] ++ o.test stop (.text "widget") 0 :: [] := rfl
  obtain ⟨body, hbody, hnested, hcount, -, -, -, hmembers⟩ :=
    wellNested_body hf hlineEnd hname htexts 1
  rw [hfield] at hmembers
  exact ⟨hf, hlineEnd, hname, htexts, htests, body, hbody, hnested, hcount, hmembers _ _ _ htests⟩

end Outline
end TestSkeleton.Java
