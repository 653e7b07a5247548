import TestSkeleton.Proofs.Java.Characters
import TestSkeleton.Proofs.Java.Layout
import TestSkeleton.Proofs.Text.Lines

/-!
# Lines of a test class

The text of a test class read line by line. The lines that come back are those that were written, if
no text of the class breaks a line. A line with an at sign behind its first character is that of an
annotation, and no other line is taken for one, so the annotations show where the members are.

Specification: `SPEC_FULL.md:70`.
-/

namespace TestSkeleton.Java

open Text (Lacks)

/-! ### Groups of lines

Groups of one length with a line between them. -/

section groups

variable {α : Type} {sep a : α} {width : Nat} {groups : List (List α)}

/-- A line that each group starts with, and that is nowhere else, is found in steps of one
length. -/
theorem idxsOf_intercalate [DecidableEq α] (hsep : sep ≠ a)
    (hgroups : ∀ group ∈ groups, group.length = width ∧ ∀ start, group.idxsOf a start = [start])
    (start : Nat) : ([sep].intercalate groups).idxsOf a start =
      (List.range groups.length).map fun j => start + (width + 1) * j := by
  induction groups generalizing start with
  | nil => rfl
  | cons group groups ih =>
    obtain ⟨hlength, hgroup⟩ := hgroups group List.mem_cons_self
    have hrest := ih fun group' hmem => hgroups group' (List.mem_cons_of_mem _ hmem)
    cases groups with
    | nil => simp [hgroup]
    | cons next groups =>
      have hstep (j : Nat) : start + width + 1 + (width + 1) * j =
          start + (width + 1) * (j + 1) := by
        rw [Nat.mul_succ]
        omega
      rw [List.intercalate_cons_cons, List.idxsOf_append, List.idxsOf_append, hgroup,
        List.length_append, List.length_singleton, hrest, hlength, List.idxsOf_cons,
        if_neg (by simpa using hsep), List.idxsOf_nil, List.length_cons (a := group),
        List.range_succ_eq_map, List.map_cons, List.map_map]
      simp [Function.comp_def, ← Nat.add_assoc, hstep]

/-- The lines of the groups, and those between them, by their positions. -/
theorem getElem?_intercalate (sep : α) (hgroups : ∀ group ∈ groups, group.length = width)
    {j : Nat} {group : List α} (hj : groups[j]? = some group) :
    (∀ i < width, ([sep].intercalate groups)[(width + 1) * j + i]? = group[i]?) ∧
      (j + 1 < groups.length → ([sep].intercalate groups)[(width + 1) * j + width]? = some sep) := by
  induction groups generalizing j with
  | nil => cases hj
  | cons first groups ih =>
    have hlength : first.length = width := hgroups first List.mem_cons_self
    have hrest := fun group' hmem => hgroups group' (List.mem_cons_of_mem first hmem)
    cases groups with
    | nil =>
      obtain ⟨rfl, rfl⟩ : j = 0 ∧ first = group := by simpa [List.getElem?_singleton] using hj
      refine ⟨fun i _ => ?_, fun hlast => absurd hlast (by simp)⟩
      rw [List.intercalate_singleton, Nat.mul_zero, Nat.zero_add]
    | cons next groups =>
      rw [List.intercalate_cons_cons]
      cases j with
      | zero =>
        obtain rfl : first = group := by simpa using hj
        refine ⟨fun i hi => ?_, fun _ => ?_⟩
        · rw [Nat.mul_zero, Nat.zero_add, List.append_assoc, List.getElem?_append_left (by omega)]
        · rw [Nat.mul_zero, Nat.zero_add, List.append_assoc, List.getElem?_append_right (by omega),
            hlength, Nat.sub_self, List.singleton_append, List.getElem?_cons_zero]
      | succ j =>
        -- the position is in the groups that follow, one group and one line further on
        have hlater (i : Nat) : (first ++ [sep] ++ [sep].intercalate (next :: groups))[
            (width + 1) * (j + 1) + i]? = ([sep].intercalate (next :: groups))[
              (width + 1) * j + i]? := by
          have hi : (width + 1) * (j + 1) + i = (first ++ [sep]).length + ((width + 1) * j + i) := by
            rw [List.length_append, List.length_singleton, hlength, Nat.mul_succ]
            omega
          rw [hi, List.getElem?_append_right (Nat.le_add_right _ _), Nat.add_sub_cancel_left]
        obtain ⟨hgroup, hsep⟩ := ih hrest (by simpa using hj)
        refine ⟨fun i hi => (hlater i).trans (hgroup i hi), fun hlast => ?_⟩
        exact (hlater width).trans (hsep (Nat.lt_of_succ_lt_succ hlast))

end groups

/-! ### Line breaks -/

/-- A text stays within a line. -/
def IsUnbroken (s : String) : Prop := Lacks ['\r', '\n'] s

instance (s : String) : Decidable (IsUnbroken s) := inferInstanceAs (Decidable (Lacks _ s))

namespace IsUnbroken

variable {f : Framework} {c : ClassInfo} {m : Method} {name field : Name}

/-- Two texts are unbroken together exactly when each is. -/
@[simp] theorem append_iff {s t : String} :
    IsUnbroken (s ++ t) ↔ IsUnbroken s ∧ IsUnbroken t := Text.lacks_append

/-- The lines of a member are unbroken where its parts are. -/
theorem of_mem_memberLines {marker head statement : String}
    (hmarker : IsUnbroken marker) (hhead : IsUnbroken head)
    (hstatement : IsUnbroken statement) :
    ∀ line ∈ memberLines "\t" marker head statement, IsUnbroken line := by
  have htab : IsUnbroken "\t" := by decide
  have hopening : IsUnbroken "() throws Exception " := by decide
  have hopen : IsUnbroken openBrace := by decide
  have hclose : IsUnbroken closeBrace := by decide
  simp only [memberLines, List.forall_mem_cons, append_iff]
  exact ⟨⟨htab, hmarker⟩, ⟨⟨⟨htab, hhead⟩, hopening⟩, hopen⟩, ⟨⟨htab, htab⟩, hstatement⟩,
    ⟨htab, hclose⟩, List.forall_mem_nil _⟩

/-- Samples are unbroken, so the arguments of a call are. -/
theorem arguments {parameters : List Parameter} (h : ∀ p ∈ parameters, IsUnbroken p.type)
    (v : Int) : IsUnbroken (arguments parameters v) :=
  lacks_arguments (by decide) (by decide) h v

/-- The lines before the set-up method are unbroken. -/
theorem of_mem_headLines (hf : f ∈ Framework.known) (hcanonical : IsUnbroken c.canonicalName)
    (hclass : IsUnbroken c.simpleName.display) (hfield : IsUnbroken field.display) :
    ∀ line ∈ headLines f.imports c field, IsUnbroken line := by
  have hpackage : IsUnbroken c.packageName := ClassInfo.lacks_packageName hcanonical
  have himports : ∀ f ∈ Framework.known, ∀ line ∈ f.imports.map fun name => "import " ++ name ++ ";",
      IsUnbroken line := by decide
  simp only [headLines, List.forall_mem_append]
  refine ⟨⟨?_, himports f hf⟩, ?_⟩
  · split
    · exact List.forall_mem_nil _
    · simp only [List.forall_mem_cons, append_iff]
      exact ⟨⟨⟨by decide, hpackage⟩, by decide⟩, by decide, List.forall_mem_nil _⟩
  · simp only [List.forall_mem_cons, append_iff]
    exact ⟨by decide, ⟨⟨⟨by decide, hclass⟩, by decide⟩, by decide⟩,
      ⟨⟨⟨⟨by decide, hclass⟩, by decide⟩, hfield⟩, by decide⟩, List.forall_mem_nil _⟩

/-- The lines of the set-up method are unbroken. -/
theorem of_mem_setUpLines (hf : f ∈ Framework.known) (hclass : IsUnbroken c.simpleName.display)
    (hfield : IsUnbroken field.display) (htypes : ∀ p ∈ c.constructorParameters, IsUnbroken p.type) :
    ∀ line ∈ setUpLines f c field, IsUnbroken line := by
  have hmarker : ∀ f ∈ Framework.known, IsUnbroken f.setUpAnnotation := by decide
  refine of_mem_memberLines (hmarker f hf) (by decide) ?_
  simp only [setUpStatement, append_iff]
  exact ⟨⟨⟨⟨⟨hfield, by decide⟩, hclass⟩, by decide⟩, arguments htypes 0⟩, by decide⟩

/-- The lines of a test are unbroken. -/
theorem of_mem_testLines (hf : f ∈ Framework.known) (hfield : IsUnbroken field.display)
    (hm : ∀ t ∈ m.texts, IsUnbroken t) (v : Nat) :
    ∀ line ∈ m.testLines f field v, IsUnbroken line := by
  obtain ⟨hname, hreturn, htypes⟩ := Method.forall_texts_iff.mp hm
  have hmarker : ∀ f ∈ Framework.known, IsUnbroken f.testAnnotation := by decide
  have htest : IsUnbroken (m.testName v) := m.lacks_testName (by decide) hm v
  have hreceiver : IsUnbroken (m.receiver field).display := m.lacks_receiver (by decide) hfield
  have hcall : IsUnbroken (m.call field v) := by
    simp only [Method.call, append_iff]
    exact ⟨⟨⟨⟨⟨hreceiver, by decide⟩, hname⟩, by decide⟩, arguments htypes v⟩, by decide⟩
  refine of_mem_memberLines (hmarker f hf) (append_iff.mpr ⟨by decide, htest⟩) ?_
  rw [Method.testStatement]
  split
  · exact hcall
  · simp only [append_iff]
    exact ⟨⟨hreturn, by decide⟩, hcall⟩

/-- No line of a class has a line break in it, if the texts of the class have none. -/
theorem of_mem_lines (hf : f ∈ Framework.known) (h : ∀ t ∈ c.texts name, IsUnbroken t) (k : Nat) :
    ∀ line ∈ c.lines f name.decapitalize k, IsUnbroken line := by
  obtain ⟨hcanonical, hclass, hname, htypes, hmethods⟩ := ClassInfo.forall_texts_iff.mp h
  have hfield : IsUnbroken name.decapitalize.display := Name.lacks_decapitalize (by decide) hname
  have hempty : ∀ line ∈ [""], IsUnbroken line := by decide
  have htests : ∀ line ∈ [""].intercalate (c.testLines f name.decapitalize k), IsUnbroken line := by
    intro line hline
    by_cases hblank : line ∈ [""]
    · exact hempty line hblank
    · obtain ⟨test, htest, hline⟩ := (Text.mem_intercalate_iff hblank _).mp hline
      obtain ⟨m, hm, v, rfl⟩ := ClassInfo.exists_of_mem_testLines htest
      exact of_mem_testLines hf hfield (hmethods m hm) v line hline
  simp only [ClassInfo.lines, List.forall_mem_append]
  exact ⟨⟨⟨⟨⟨of_mem_headLines hf hcanonical hclass hfield, hempty⟩,
    of_mem_setUpLines hf hclass hfield htypes⟩, hempty⟩, htests⟩, by decide⟩

end IsUnbroken

/-! ### Annotations -/

/-- A line has an at sign behind its first character, as the lines of annotations have. -/
def IsMarker (line : String) : Prop := line.toList[1]? = some '@'

instance (line : String) : Decidable (IsMarker line) :=
  inferInstanceAs (Decidable (line.toList[1]? = some '@'))

namespace IsMarker

variable {f : Framework} {c : ClassInfo} {field : Name} {marker : String}

/-- The annotation of the set-up method, indented, is a marker. -/
theorem setUp (f : Framework) : IsMarker ("\t" ++ f.setUpAnnotation) := by
  simp [IsMarker, Framework.setUpAnnotation]

/-- The annotation of a test, indented, is a marker. -/
theorem test (f : Framework) : IsMarker ("\t" ++ f.testAnnotation) := by
  simp [IsMarker, Framework.testAnnotation]

/-- An annotation is not found among other lines. -/
theorem idxsOf_eq_nil {ls : List String} (h : IsMarker marker)
    (hls : ∀ line ∈ ls, ¬ IsMarker line) (start : Nat) : ls.idxsOf marker start = [] := by
  refine List.idxsOf_eq_nil_iff.mpr fun line hline => beq_eq_false_iff_ne.mpr ?_
  rintro rfl
  exact hls _ hline h

/-- Of the lines of a member only the first one can be an annotation. -/
theorem idxsOf_memberLines (h : IsMarker marker) (own name statement : String)
    (start : Nat) :
    (memberLines "\t" own ("public void " ++ name) statement).idxsOf marker start =
      if "\t" ++ own = marker then [start] else [] := by
  have hrest : ∀ line ∈ (memberLines "\t" own ("public void " ++ name) statement).tail,
      ¬ IsMarker line := by
    simp [memberLines, IsMarker, closeBrace]
  rw [memberLines, List.tail_cons] at hrest
  rw [memberLines, List.idxsOf_cons, h.idxsOf_eq_nil hrest]
  simp

/-- No line before the set-up method is a marker. -/
theorem not_of_mem_headLines (hf : f ∈ Framework.known) :
    ∀ line ∈ headLines f.imports c field, ¬ IsMarker line := by
  have himports : ∀ f ∈ Framework.known, ∀ line ∈ f.imports.map fun name => "import " ++ name ++ ";",
      ¬ IsMarker line := by decide
  simp only [headLines, List.forall_mem_append]
  refine ⟨⟨?_, himports f hf⟩, ?_⟩
  · split
    · exact List.forall_mem_nil _
    · simp [IsMarker]
  · simp [IsMarker]

/-- Where an annotation is found among the lines of the tests. -/
theorem idxsOf_testLines (h : IsMarker marker) (f : Framework) (c : ClassInfo)
    (field : Name) (k start : Nat) :
    ([""].intercalate (c.testLines f field k)).idxsOf marker start =
      if "\t" ++ f.testAnnotation = marker then
        (List.range (c.publicMethods.length * k)).map fun j => start + 5 * j
      else [] := by
  have hblank : "" ≠ marker := fun hempty => absurd (hempty ▸ h) (by decide)
  have htest (m : Method) (v start : Nat) : (m.testLines f field v).idxsOf marker start =
      if "\t" ++ f.testAnnotation = marker then [start] else [] := h.idxsOf_memberLines _ _ _ _
  by_cases hmarker : "\t" ++ f.testAnnotation = marker
  · have hgroups : ∀ test ∈ c.testLines f field k,
        test.length = 4 ∧ ∀ start, test.idxsOf marker start = [start] := by
      intro test htests
      obtain ⟨m, -, v, rfl⟩ := ClassInfo.exists_of_mem_testLines htests
      refine ⟨rfl, fun start => ?_⟩
      rw [htest, if_pos hmarker]
    rw [idxsOf_intercalate hblank hgroups, ClassInfo.length_testLines, if_pos hmarker]
  · rw [if_neg hmarker, List.idxsOf_eq_nil_iff]
    intro line hline
    refine beq_eq_false_iff_ne.mpr ?_
    rintro rfl
    obtain ⟨test, htests, hline⟩ :=
      (Text.mem_intercalate_iff (by simpa using hblank.symm) _).mp hline
    obtain ⟨m, -, v, rfl⟩ := ClassInfo.exists_of_mem_testLines htests
    have hnone := htest m v 0
    rw [if_neg hmarker, List.idxsOf_eq_nil_iff] at hnone
    exact absurd rfl (beq_eq_false_iff_ne.mp (hnone line hline))

/-- Where an annotation is found among the lines of a class: above the set-up method, which comes
after the lines up to the field and an empty line, or above the tests. -/
theorem idxsOf_lines (h : IsMarker marker) (hf : f ∈ Framework.known) (c : ClassInfo)
    (field : Name) (k : Nat) :
    (c.lines f field k ++ [""]).idxsOf marker =
      (if "\t" ++ f.setUpAnnotation = marker then [(headLines f.imports c field).length + 1]
        else []) ++
      (if "\t" ++ f.testAnnotation = marker then
        (List.range (c.publicMethods.length * k)).map fun j =>
          (headLines f.imports c field).length + 6 + 5 * j
        else []) := by
  have hhead (start : Nat) : (headLines f.imports c field).idxsOf marker start = [] :=
    h.idxsOf_eq_nil (not_of_mem_headLines hf) start
  have hblank (start : Nat) : [""].idxsOf marker start = [] := h.idxsOf_eq_nil (by decide) start
  have hend (start : Nat) : [closeBrace].idxsOf marker start = [] :=
    h.idxsOf_eq_nil (by decide) start
  have hsetUp (start : Nat) : (setUpLines f c field).idxsOf marker start =
      if "\t" ++ f.setUpAnnotation = marker then [start] else [] :=
    h.idxsOf_memberLines _ "setUp" _ _
  have hlength : (setUpLines f c field).length = 4 := rfl
  simp only [ClassInfo.lines, List.idxsOf_append, List.length_append, List.length_singleton,
    Nat.zero_add, hhead, hblank, hend, hsetUp, hlength, h.idxsOf_testLines, List.append_nil,
    List.nil_append]

end IsMarker

namespace ClassInfo

variable {f : Framework} {c : ClassInfo} {field : Name} {k : Nat}

/-- The head of the set-up method is below its annotation. -/
theorem getElem?_lines_setUp (f : Framework) (c : ClassInfo) (field : Name) (k : Nat) :
    (c.lines f field k ++ [""])[(headLines f.imports c field).length + 2]? =
      some "\tpublic void setUp() throws Exception \x7b" := by
  have hlines : c.lines f field k ++ [""] = headLines f.imports c field ++ ([""] ++
      setUpLines f c field ++ ([""] ++ [""].intercalate (c.testLines f field k) ++
        [closeBrace] ++ [""])) := by simp only [lines, List.append_assoc]
  rw [hlines, List.getElem?_append_right (Nat.le_add_right _ _), Nat.add_sub_cancel_left]
  have hhead : "\t" ++ "public void setUp" ++ "() throws Exception " ++ openBrace =
      "\tpublic void setUp() throws Exception \x7b" := rfl
  rw [← hhead]
  rfl

/-- The lines of the tests come after the lines up to the field and six more. -/
theorem getElem?_lines_of_tests {i : Nat} {line : String}
    (h : ([""].intercalate (c.testLines f field k))[i]? = some line) :
    (c.lines f field k ++ [""])[(headLines f.imports c field).length + 6 + i]? = some line := by
  have hlength : (headLines f.imports c field ++ [""] ++ setUpLines f c field ++ [""]).length =
      (headLines f.imports c field).length + 6 := by
    simp [setUpLines, memberLines]
  obtain ⟨hi, -⟩ := List.getElem?_eq_some_iff.mp h
  rw [lines, List.append_assoc, List.append_assoc, List.getElem?_append_right (by omega), hlength,
    Nat.add_sub_cancel_left, List.getElem?_append_left hi, h]

/-- Below the annotation of a test are its head, a statement and a brace, and an empty line where
there is another test. -/
theorem getElem?_lines_test (f : Framework) (c : ClassInfo) (field : Name) {k j : Nat}
    (hj : j < c.publicMethods.length * k) :
    ∃ m, c.publicMethods[j / k]? = some m ∧
      (c.lines f field k ++ [""])[(headLines f.imports c field).length + 6 + (5 * j + 1)]? =
        some ("\tpublic void " ++ m.testName ↑(j % k) ++ "() throws Exception \x7b") ∧
      (c.lines f field k ++ [""])[(headLines f.imports c field).length + 6 + (5 * j + 3)]? =
        some "\t\x7d" ∧
      (j + 1 < c.publicMethods.length * k →
        (c.lines f field k ++ [""])[(headLines f.imports c field).length + 6 + (5 * j + 4)]? =
          some "") := by
  obtain ⟨m, hm, htest⟩ := c.getElem?_testLines f field hj
  have hgroups : ∀ test ∈ c.testLines f field k, test.length = 4 := by
    intro test htests
    obtain ⟨m, -, v, rfl⟩ := exists_of_mem_testLines htests
    rfl
  obtain ⟨hline, hblank⟩ := getElem?_intercalate "" hgroups htest
  have hhead : "\t" ++ ("public void " ++ m.testName ↑(j % k)) ++ "() throws Exception " ++
      openBrace = "\tpublic void " ++ m.testName ↑(j % k) ++ "() throws Exception \x7b" := by
    apply String.toList_inj.mp
    simp [openBrace]
  refine ⟨m, hm, getElem?_lines_of_tests ?_, getElem?_lines_of_tests (hline 3 (by omega)),
    fun hnext => getElem?_lines_of_tests (hblank ?_)⟩
  · rw [hline 1 (by omega), ← hhead]
    rfl
  · rwa [length_testLines]

/-- The last line that is not empty is the closing brace. -/
theorem getLast?_filter_lines (f : Framework) (c : ClassInfo) (field : Name) (k : Nat) :
    ((c.lines f field k ++ [""]).filter (· ≠ "")).getLast? = some closeBrace := by
  have hbrace : [closeBrace].filter (· ≠ "") = [closeBrace] := by decide
  have hblank : [""].filter (· ≠ "") = [] := by decide
  rw [List.filter_append, lines, List.filter_append, hbrace, hblank, List.append_nil,
    List.getLast?_concat]

end ClassInfo

namespace Outline

/-- The text of a test class can be read back line by line. The annotation of the set-up method is a
line of its own, found once, and the head of the method comes next. The annotations of the tests are
found after it, five lines from each other, as many as the public methods have variants. Below each
of them are the head of its test, which is named for its method and variant, a statement and a
brace; an empty line follows where there is another test. The last line that is not empty is a
brace. -/
theorem lines_of_body {f : Framework} (hf : f ∈ Framework.known) {lineEnd : String}
    (hlineEnd : lineEnd = "\n" ∨ lineEnd = "\r\n") {c : ClassInfo} {name : Name}
    (hname : Name.ofValue c.simpleName = .ok name) (h : ∀ t ∈ c.texts name, IsUnbroken t) (k : Nat) :
    ∃ body ls start, (ofFramework f lineEnd).body c k = .ok body ∧
      Text.lines lineEnd body.text = ls ∧
      ls.idxsOf ("\t" ++ f.setUpAnnotation) = [start] ∧
      ls[start + 1]? = some "\tpublic void setUp() throws Exception \x7b" ∧
      ls.count ("\t" ++ f.testAnnotation) = c.publicMethods.length * k ∧
      ls.idxsOf ("\t" ++ f.testAnnotation) =
        (List.range (c.publicMethods.length * k)).map (fun j => start + 5 + 5 * j) ∧
      (∀ j < c.publicMethods.length * k, ∃ m, c.publicMethods[j / k]? = some m ∧
        ls[start + 5 + 5 * j + 1]? =
          some ("\tpublic void " ++ m.testName ↑(j % k) ++ "() throws Exception \x7b") ∧
        ls[start + 5 + 5 * j + 3]? = some "\t\x7d" ∧
        (j + 1 < c.publicMethods.length * k → ls[start + 5 + 5 * j + 4]? = some "")) ∧
      (ls.filter (· ≠ "")).getLast? = some "\x7d" := by
  let field := name.decapitalize
  have hunbroken := IsUnbroken.of_mem_lines hf h k
  have hlines : Text.lines lineEnd ((ofFramework f lineEnd).bodyWith c field k).text =
      c.lines f field k ++ [""] := by
    rw [text_bodyWith]
    rcases hlineEnd with rfl | rfl
    · exact Text.lines_join rfl fun line hline hmem => hunbroken line hline _ hmem (by decide)
    · exact Text.lines_join rfl fun line hline hmem => hunbroken line hline _ hmem (by decide)
  have hne : f.setUpAnnotation ≠ f.testAnnotation := by
    have hall : ∀ f ∈ Framework.known, f.setUpAnnotation ≠ f.testAnnotation := by decide
    exact hall f hf
  have htest : "\t" ++ f.testAnnotation ≠ "\t" ++ f.setUpAnnotation := fun heq =>
    hne (String.append_right_inj _ |>.mp heq).symm
  have htests := (IsMarker.test f).idxsOf_lines hf c field k
  rw [if_neg htest.symm, if_pos rfl, List.nil_append] at htests
  refine ⟨_, _, (headLines f.imports c field).length + 1, body_of_name hname, hlines, ?_,
    c.getElem?_lines_setUp f field k, ?_, htests, fun j hj => ?_, c.getLast?_filter_lines f field k⟩
  · rw [(IsMarker.setUp f).idxsOf_lines hf, if_pos rfl, if_neg htest, List.append_nil]
  · rw [← List.length_idxsOf, htests, List.length_map, List.length_range]
  · have hstart : (headLines f.imports c field).length + 1 + 5 =
        (headLines f.imports c field).length + 6 := rfl
    simp only [hstart, Nat.add_assoc]
    simpa only [Nat.add_assoc] using c.getElem?_lines_test f field hj

/-- A type text that is an annotation is not taken for one: with two variants the fourth test is the
second one of the method behind the private one. -/
theorem lines_of_body_with_marker_as_type :
    let c : ClassInfo := {
      canonicalName := "a.Widget"
      methods := [
        { name := "run", parameters := [⟨"on", "@Test"⟩], returnType := "@Test" },
        { name := "hidden", visibility := .isPrivate }, { name := "stop" }] }
    Framework.junit5 ∈ Framework.known ∧ Name.ofValue c.simpleName = .ok (.text "Widget") ∧
      (∀ t ∈ c.texts (.text "Widget"), IsUnbroken t) ∧
      ∃ body ls start, (ofFramework .junit5 "\r\n").body c 2 = .ok body ∧
        Text.lines "\r\n" body.text = ls ∧ ls.idxsOf "\t@BeforeEach" = [start] ∧
        ls.idxsOf "\t@Test" = [start + 5, start + 10, start + 15, start + 20] ∧
        ls[start + 21]? = some "\tpublic void testStop1() throws Exception \x7b" ∧
        (ls.filter (· ≠ "")).getLast? = some "\x7d" := by
  intro c
  have hf : Framework.junit5 ∈ Framework.known := by decide
  have hname : Name.ofValue c.simpleName = .ok (.text "Widget") := by decide
  have htexts : ∀ t ∈ c.texts (.text "Widget"), IsUnbroken t := by decide
  obtain ⟨body, ls, start, hbody, hlines, hsetUp, -, -, htests, hmembers, hlast⟩ :=
    lines_of_body hf (.inr rfl) hname htexts 2
  obtain ⟨m, hm, hline, -⟩ := hmembers 3 (by decide)
  have hstop : c.publicMethods[3 / 2]? = some { name := "stop" } := by decide
  rw [hstop] at hm
  obtain rfl := Option.some.inj hm
  exact ⟨hf, hname, htexts, body, ls, start, hbody, hlines, hsetUp, htests, hline, hlast⟩

end Outline
end TestSkeleton.Java
