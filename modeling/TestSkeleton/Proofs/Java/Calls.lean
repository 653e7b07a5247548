import TestSkeleton.Proofs.Java.Characters
import TestSkeleton.Proofs.Java.Receivers

/-!
# Arguments of generated calls

Arguments are written with a comma and a blank between them. Read back at these, the arguments of a
call are the samples of its parameters, one for each, as no sample has a comma in it that the type
does not have before its generic arguments.

Specification: `SPEC_FULL.md:160–166`.
-/

namespace TestSkeleton.Java

open Text

/-! ### Lists of arguments -/

/-- The items of a list in which a comma and a blank stand between two items. -/
def splitItems : List Char → List (List Char)
  | ',' :: ' ' :: rest => [] :: splitItems rest
  | c :: rest => (splitItems rest).modifyHead (c :: ·)
  | [] => [[]]

/-- The items of a list of arguments; a text without a separator is one item. -/
def items (s : String) : List String := (splitItems s.toList).map String.ofList

/-- What stands before a list without a comma in it belongs to its first item. -/
theorem splitItems_append {xs : List Char} (h : ',' ∉ xs) (rest : List Char) :
    splitItems (xs ++ rest) = (splitItems rest).modifyHead (xs ++ ·) := by
  induction xs with
  | nil => exact (congrFun List.modifyHead_id _).symm
  | cons x xs ih =>
    rw [List.mem_cons, not_or] at h
    have hcons : splitItems (x :: (xs ++ rest)) =
        (splitItems (xs ++ rest)).modifyHead (x :: ·) := by
      rw [splitItems]
      rintro - rfl
      exact absurd rfl h.1
    rw [List.cons_append, hcons, ih h.2, List.modifyHead_modifyHead]
    rfl

/-- Items without commas are read back from the list of them. -/
theorem splitItems_intercalate {parts : List (List Char)} (hne : parts ≠ [])
    (h : ∀ part ∈ parts, ',' ∉ part) : splitItems ([',', ' '].intercalate parts) = parts := by
  induction parts with
  | nil => exact absurd rfl hne
  | cons part parts ih =>
    rw [List.forall_mem_cons] at h
    cases parts with
    | nil =>
      rw [List.intercalate_singleton, ← List.append_nil part, splitItems_append h.1]
      rfl
    | cons next parts =>
      rw [List.intercalate_cons_cons, List.append_assoc, splitItems_append h.1, List.cons_append,
        List.cons_append, List.nil_append, splitItems, ih (List.cons_ne_nil _ _) h.2,
        List.modifyHead_cons, List.append_nil]

/-- Items without commas, listed with commas, are read back. -/
theorem items_intercalate {ss : List String} (hne : ss ≠ []) (h : ∀ s ∈ ss, ',' ∉ s.toList) :
    items (", ".intercalate ss) = ss := by
  have hparts : ∀ part ∈ ss.map String.toList, ',' ∉ part := by
    intro part hpart
    obtain ⟨s, hs, rfl⟩ := List.mem_map.mp hpart
    exact h s hs
  have hseparator : ", ".toList = [',', ' '] := by decide
  rw [items, String.toList_intercalate, hseparator,
    splitItems_intercalate (by simpa using hne) hparts, List.map_map]
  exact List.map_id'' (fun s => String.ofList_toList) ss

/-! ### Samples as arguments -/

/-- A type without commas in front of its arguments has no sample with a comma. -/
theorem not_mem_sample {type : String} (h : ',' ∉ (TypeText.erase type).toList) (variant : Int) :
    ',' ∉ (sample type variant).toList := by
  have hlisted : ∀ s ∈ "new [0]" :: listedSamples, Lacks [','] s := by decide
  have hlacks : Lacks [','] (TypeText.erase type) := by
    intro c hc hcomma
    rw [List.mem_singleton.mp hcomma] at hc
    exact h hc
  exact fun hmem => lacks_sample hlisted hlacks variant ',' hmem List.mem_cons_self

/-- No sample is empty. -/
theorem sample_ne_empty (type : String) (variant : Int) : sample type variant ≠ "" := by
  have hlisted : ∀ s ∈ listedSamples, s ≠ "" := by decide
  have hform := isSampleOf_sample type variant
  generalize sample type variant = s at hform
  cases hform with
  | listed hs => exact hlisted s hs
  | array _ dims => simp [← String.toList_inj]

/-- The text in the parentheses of a call passes one sample for each parameter: it is empty if there
are none, and otherwise its items are the samples. -/
structure PassesSamples (parameters : List Parameter) (variant : Int) (text : String) : Prop where
  eq_empty : parameters = [] → text = ""
  items_eq : parameters ≠ [] → items text = parameters.map fun p => sample p.type variant
  ne_empty : parameters ≠ [] → ∀ item ∈ items text, item ≠ ""

/-- The arguments of a call, read back, are the samples of the parameters. -/
theorem passesSamples_arguments {parameters : List Parameter}
    (h : ∀ p ∈ parameters, ',' ∉ (TypeText.erase p.type).toList) (variant : Int) :
    PassesSamples parameters variant (arguments parameters variant) := by
  have hitems (hne : parameters ≠ []) :
      items (arguments parameters variant) = parameters.map fun p => sample p.type variant := by
    refine items_intercalate (by simpa using hne) fun s hs => ?_
    obtain ⟨p, hp, rfl⟩ := List.mem_map.mp hs
    exact not_mem_sample (h p hp) variant
  refine ⟨?_, hitems, fun hne item hitem => ?_⟩
  · rintro rfl
    rfl
  · rw [hitems hne] at hitem
    obtain ⟨p, -, rfl⟩ := List.mem_map.mp hitem
    exact sample_ne_empty p.type variant

/-- The calls in test methods and the constructor call of the fixture pass one sample for each
declared parameter, in their order, if no type has a comma before its generic arguments. -/
theorem calls_pass_samples (style : MemberStyle) (field : Name) :
    (∀ (m : Method) (variant : Int),
      (∀ p ∈ m.parameters, ',' ∉ (TypeText.erase p.type).toList) →
      ∃ text, PassesSamples m.parameters variant text ∧
        m.test style field variant = joinLines style.lineEnd
          (memberLines style.indent style.framework.testAnnotation
            ("public void " ++ m.testName variant)
            (m.resultDeclaration ++ (m.receiver field).display ++ "." ++ m.name ++ "("
              ++ text ++ ");"))) ∧
    ∀ c : ClassInfo, (∀ p ∈ c.constructorParameters, ',' ∉ (TypeText.erase p.type).toList) →
      ∃ text, PassesSamples c.constructorParameters 0 text ∧
        setUp style c field = joinLines style.lineEnd
          (memberLines style.indent style.framework.setUpAnnotation "public void setUp"
            (field.display ++ " = new " ++ c.simpleName.display ++ "(" ++ text ++ ");")) := by
  refine ⟨fun m variant h => ⟨_, passesSamples_arguments h variant, ?_⟩,
    fun c h => ⟨_, passesSamples_arguments h 0, rfl⟩⟩
  rw [Method.test, Method.testStatement_eq, Method.call]
  simp only [String.append_assoc]

/-- A comma in generic arguments makes no further item. -/
theorem calls_pass_samples_map :
    let parameters : List Parameter :=
      [{ name := "counts", type := "java.util.Map<String, Integer>" }, { name := "n", type := "int" }]
    let m : Method := { name := "put", parameters := parameters }
    let c : ClassInfo := { canonicalName := "a.Table", constructorParameters := parameters }
    (∀ p ∈ parameters, ',' ∉ (TypeText.erase p.type).toList) ∧
      (∃ text, items text = ["null", "1"] ∧
        m.test { } (.text "table") 1 = joinLines "\n" (memberLines "\t" "@Test"
          ("public void " ++ m.testName 1) ("table.put(" ++ text ++ ");"))) ∧
      ∃ text, items text = ["new java.util.HashMap<>()", "0"] ∧
        setUp { } c (.text "table") = joinLines "\n" (memberLines "\t" "@BeforeEach"
          "public void setUp" ("table = new Table(" ++ text ++ ");")) := by
  intro parameters m c
  have hcomma : ∀ p ∈ parameters, ',' ∉ (TypeText.erase p.type).toList := by decide
  have hclass : c.simpleName = .text "Table" :=
    congrArg Value.text (by decide : Text.afterLast '.' "a.Table" = "Table")
  have hcallee : m.resultDeclaration ++ (m.receiver (.text "table")).display ++ "." ++ m.name ++ "(" =
      "table.put(" := by decide
  have hnew : (Name.text "table").display ++ " = new " ++ c.simpleName.display ++ "(" =
      "table = new Table(" := by
    rw [hclass]
    decide
  have hmarkTest : Framework.testAnnotation .junit5 = "@Test" := by decide
  have hmarkSetUp : Framework.setUpAnnotation .junit5 = "@BeforeEach" := by decide
  obtain ⟨htest, hsetUp⟩ := calls_pass_samples { } (.text "table")
  obtain ⟨text, hpasses, htext⟩ := htest m 1 hcomma
  obtain ⟨text', hpasses', htext'⟩ := hsetUp c hcomma
  rw [hmarkTest, hcallee] at htext
  rw [hmarkSetUp, hnew] at htext'
  exact ⟨hcomma, ⟨text, (hpasses.items_eq (List.cons_ne_nil _ _)).trans (by decide), htext⟩,
    text', (hpasses'.items_eq (List.cons_ne_nil _ _)).trans (by decide), htext'⟩

end TestSkeleton.Java
