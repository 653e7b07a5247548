import TestSkeleton.Proofs.Manifest.Faults

/-!
# What a manifest may hold

The schema of manifests as a condition on documents, and what a document says about classes as a
relation. A document is decoded exactly where it follows the schema and every value that goes into a
text has one; the classes are then the ones that it describes, in the order of its lists. All other
documents are reported under the path of the manifest, those apart in which a value without a text
comes first.

Specification: `SPEC_FULL.md:196–198`.
-/

namespace TestSkeleton.Manifest

open Java
open Outcome (FirstWith)

/-! ### The schema -/

/-- Under a key there is nothing, something empty, or a list of values that follow a schema. -/
def ListUnder (P : Value → Prop) (entries : Entries) (key : String) : Prop :=
  ∀ v, Value.get? entries key = some v → v.isTruthy = true →
    ∃ items, v.items? = some items ∧ ∀ x ∈ items, P x

/-- There is a name, a text that is not empty. -/
def Named (entries : Entries) : Prop :=
  ∃ name, Value.get? entries "name" = some (.text name) ∧ name ≠ ""

/-- A visibility may be missing. Otherwise its text in lower case is one of the words. -/
def VisibilitySchema (entries : Entries) : Prop :=
  ∀ v text, Value.get? entries "visibility" = some v → v.shown = .ok text →
    ∃ visibility : Visibility, Text.lower text = visibility.word

/-- A parameter is a mapping with a name and a type, whatever they are. -/
def ParameterSchema (v : Value) : Prop :=
  ∃ entries, v.entries? = some entries ∧ (Value.get? entries "name").isSome = true ∧
    (Value.get? entries "type").isSome = true

/-- A method is a mapping with a name, a visibility and parameters. -/
def MethodSchema (v : Value) : Prop :=
  ∃ entries, v.entries? = some entries ∧ Named entries ∧ VisibilitySchema entries ∧
    ListUnder ParameterSchema entries "parameters"

/-- A class is a mapping with a name, methods and the parameters of its constructor. -/
def ClassSchema (v : Value) : Prop :=
  ∃ entries, v.entries? = some entries ∧ Named entries ∧ ListUnder MethodSchema entries "methods" ∧
    ListUnder ParameterSchema entries "constructor"

/-- A manifest is empty, or a mapping with classes. -/
def FollowsSchema (v : Value) : Prop :=
  v = .null ∨ ∃ entries, v.entries? = some entries ∧ ListUnder ClassSchema entries "classes"

/-! ### Values that go into texts -/

/-- What is under a key has a text. -/
def TextUnder (entries : Entries) (key : String) : Prop :=
  ∀ v, Value.get? entries key = some v → ∃ text, v.shown = .ok text

/-- The items of a list under a key have texts where these are needed. -/
def ItemsUnder (P : Value → Prop) (entries : Entries) (key : String) : Prop :=
  ∀ v items, Value.get? entries key = some v → v.items? = some items → ∀ x ∈ items, P x

/-- The name and the type of a parameter have texts. -/
def ParameterTexts (v : Value) : Prop :=
  ∀ entries, v.entries? = some entries → TextUnder entries "name" ∧ TextUnder entries "type"

/-- The visibility of a method, what it returns and its parameters have texts. -/
def MethodTexts (v : Value) : Prop :=
  ∀ entries, v.entries? = some entries → TextUnder entries "visibility" ∧
    TextUnder entries "returns" ∧ ItemsUnder ParameterTexts entries "parameters"

/-- The methods and the constructor of a class have texts. -/
def ClassTexts (v : Value) : Prop :=
  ∀ entries, v.entries? = some entries → ItemsUnder MethodTexts entries "methods" ∧
    ItemsUnder ParameterTexts entries "constructor"

/-- Every value of a manifest that goes into a text has one. -/
def HasTexts (v : Value) : Prop :=
  ∀ entries, v.entries? = some entries → ItemsUnder ClassTexts entries "classes"

/-! ### What a document describes -/

/-- The text that a key gives: that of its value, or a default where the key is left out. -/
inductive GivesText (entries : Entries) (key default : String) : String → Prop
  | leftOut (hkey : Value.get? entries key = none) : GivesText entries key default default
  | shown {v : Value} {text : String} (hkey : Value.get? entries key = some v)
      (htext : v.shown = .ok text) : GivesText entries key default text

/-- The items that a key gives: those of its list, or none where the key is left out or nothing
counts as given. -/
inductive GivesItems (entries : Entries) (key : String) : List Value → Prop
  | leftOut (hkey : Value.get? entries key = none) : GivesItems entries key []
  | empty {v : Value} (hkey : Value.get? entries key = some v) (hempty : v.isTruthy = false) :
      GivesItems entries key []
  | listed {v : Value} {items : List Value} (hkey : Value.get? entries key = some v)
      (hgiven : v.isTruthy = true) (hitems : v.items? = some items) : GivesItems entries key items

/-- The entries of a parameter. -/
structure ParameterEntries (p : Parameter) (entries : Entries) : Prop where
  name : ∃ v, Value.get? entries "name" = some v ∧ v.shown = .ok p.name
  type : ∃ v, Value.get? entries "type" = some v ∧ v.shown = .ok p.type

/-- The entries of a method. -/
structure MethodEntries (m : Method) (entries : Entries) : Prop where
  name : Value.get? entries "name" = some (.text m.name)
  name_ne : m.name ≠ ""
  visibility : ∃ text, GivesText entries "visibility" "public" text ∧
    Text.lower text = m.visibility.word
  parameters : ∃ items, GivesItems entries "parameters" items ∧
    List.Forall₂ (fun v p => ∃ es, v.entries? = some es ∧ ParameterEntries p es) items m.parameters
  returns : GivesText entries "returns" "void" m.returnType
  static : (Value.get? entries "static").any Value.isTruthy = m.isStatic

/-- The entries of a class. -/
structure ClassEntries (c : ClassInfo) (entries : Entries) : Prop where
  name : Value.get? entries "name" = some (.text c.canonicalName)
  name_ne : c.canonicalName ≠ ""
  methods : ∃ items, GivesItems entries "methods" items ∧
    List.Forall₂ (fun v m => ∃ es, v.entries? = some es ∧ MethodEntries m es) items c.methods
  constructor : ∃ items, GivesItems entries "constructor" items ∧
    List.Forall₂ (fun v p => ∃ es, v.entries? = some es ∧ ParameterEntries p es) items
      c.constructorParameters
  simpleName : (Value.get? entries "simple_name").getD .null = c.givenName

/-- The classes that a document describes. -/
inductive Describes : Value → List ClassInfo → Prop
  | nothing : Describes .null []
  | classes {v : Value} {entries : Entries} {items : List Value} {classes : List ClassInfo}
      (hentries : v.entries? = some entries) (hitems : GivesItems entries "classes" items)
      (hclasses : List.Forall₂ (fun v c => ∃ es, v.entries? = some es ∧ ClassEntries c es) items
        classes) : Describes v classes

variable {path : Path} {owner : String} {v : Value} {entries : Entries}

/-! ### Decoding follows the description -/

/-- A name is read where there is a text that is not empty. -/
theorem nameOf_eq_ok {failure : Failure} {name : String} :
    nameOf failure entries = .ok name ↔
      Value.get? entries "name" = some (.text name) ∧ name ≠ "" := by
  rw [nameOf]
  split
  · next s hname =>
    by_cases hs : s = ""
    · simp [hname, hs]
    · simp only [hs, if_false, hname, Except.ok.injEq, Option.some.injEq, Value.text.injEq]
      exact ⟨fun h => ⟨h, h ▸ hs⟩, fun h => h.1⟩
  · next hname =>
    constructor
    · intro h
      cases h
    · rintro ⟨h, -⟩
      exact absurd h (hname name)

/-- The text that is read is the one that the key gives. -/
theorem textOf_eq_ok {key default text : String} :
    textOf entries key default = .ok text ↔ GivesText entries key default text := by
  rw [textOf]
  cases hkey : Value.get? entries key with
  | none =>
    constructor
    · intro h
      cases h
      exact .leftOut hkey
    · intro h
      cases h with
      | leftOut _ => rfl
      | shown hkey' _ => rw [hkey] at hkey'; cases hkey'
  | some v =>
    constructor
    · intro h
      exact .shown hkey (Failure.ofFault_eq_ok.mp h)
    · intro h
      cases h with
      | leftOut hkey' => rw [hkey] at hkey'; cases hkey'
      | shown hkey' htext =>
        rw [hkey] at hkey'
        cases hkey'
        exact Failure.ofFault_eq_ok.mpr htext

/-- The items that are read are those that the key gives. -/
theorem listOf_eq_ok {failure : Failure} {key : String} {items : List Value} :
    listOf failure entries key = .ok items ↔ GivesItems entries key items := by
  rw [listOf]
  constructor
  · intro h
    split at h
    · next hkey =>
      cases h
      exact .leftOut hkey
    · next v hkey =>
      split at h
      · next hempty =>
        cases h
        exact .empty hkey (by simpa using hempty)
      · next hgiven =>
        split at h
        · next items' hitems =>
          cases h
          exact .listed hkey (by simpa using hgiven) hitems
        · cases h
  · intro h
    cases h with
    | leftOut hkey => rw [hkey]
    | empty hkey hempty => simp [hkey, hempty]
    | listed hkey hgiven hitems => simp [hkey, hgiven, hitems]

private theorem parameter_eq_ok {p : Parameter} :
    parameter path owner v = .ok p ↔ ∃ es, v.entries? = some es ∧ ParameterEntries p es := by
  rw [parameter, Outcome.bind_eq_ok]
  simp only [asMapping_eq_ok]
  refine exists_congr fun es => and_congr_right fun _ => ?_
  constructor
  · intro h
    split at h
    · next name type hname htype =>
      obtain ⟨nameText, hnameText, h⟩ := Outcome.bind_eq_ok.mp h
      obtain ⟨typeText, htypeText, h⟩ := Outcome.bind_eq_ok.mp h
      cases h
      exact ⟨⟨name, hname, Failure.ofFault_eq_ok.mp hnameText⟩,
        ⟨type, htype, Failure.ofFault_eq_ok.mp htypeText⟩⟩
    · cases h
  · rintro ⟨⟨name, hname, hnameText⟩, ⟨type, htype, htypeText⟩⟩
    rw [hname, htype]
    refine Outcome.bind_eq_ok.mpr ⟨p.name, Failure.ofFault_eq_ok.mpr hnameText, ?_⟩
    exact Outcome.bind_eq_ok.mpr ⟨p.type, Failure.ofFault_eq_ok.mpr htypeText, rfl⟩

private theorem ofWord?_eq_some {word : String} {visibility : Visibility} :
    Visibility.ofWord? word = some visibility ↔ word = visibility.word := by
  constructor
  · intro h
    unfold Visibility.ofWord? at h
    split at h <;> cases h <;> rfl
  · rintro rfl
    exact Visibility.ofWord?_word visibility

private theorem visibility_eq_ok {name : String} {visibility : Visibility} :
    Manifest.visibility path owner name entries = .ok visibility ↔
      ∃ text, GivesText entries "visibility" "public" text ∧
        Text.lower text = visibility.word := by
  change Manifest.visibility path owner name entries = .ok visibility ↔
    ∃ text, GivesText entries "visibility" Visibility.isPublic.word text ∧ _
  rw [Manifest.visibility, Outcome.bind_eq_ok]
  simp only [textOf_eq_ok, ← ofWord?_eq_some]
  refine exists_congr fun text => and_congr_right fun _ => ?_
  cases hword : Visibility.ofWord? (Text.lower text) with
  | some found => exact ⟨fun h => congrArg some (Except.ok.inj h), fun h => by cases h; rfl⟩
  | none =>
    constructor
    · intro h
      cases h
    · intro h
      cases h

private theorem parameters_eq_ok {items : List Value} {parameters : List Parameter} :
    items.mapM (parameter path owner) = .ok parameters ↔ List.Forall₂
      (fun v p => ∃ es, v.entries? = some es ∧ ParameterEntries p es) items parameters := by
  simp only [Outcome.mapM_eq_ok, parameter_eq_ok]

private theorem method_eq_ok {m : Method} :
    method path owner v = .ok m ↔ ∃ es, v.entries? = some es ∧ MethodEntries m es := by
  rw [method, Outcome.bind_eq_ok]
  simp only [asMapping_eq_ok]
  refine exists_congr fun es => and_congr_right fun _ => ?_
  have hstatic : ((Value.get? es "static").map Value.isTruthy).getD false =
      (Value.get? es "static").any Value.isTruthy := by
    cases Value.get? es "static" <;> rfl
  constructor
  · intro h
    obtain ⟨name, hname, h⟩ := Outcome.bind_eq_ok.mp h
    obtain ⟨visibility, hvisibility, h⟩ := Outcome.bind_eq_ok.mp h
    obtain ⟨items, hitems, h⟩ := Outcome.bind_eq_ok.mp h
    obtain ⟨parameters, hparameters, h⟩ := Outcome.bind_eq_ok.mp h
    obtain ⟨returns, hreturns, h⟩ := Outcome.bind_eq_ok.mp h
    cases h
    exact {
      name := (nameOf_eq_ok.mp hname).1
      name_ne := (nameOf_eq_ok.mp hname).2
      visibility := visibility_eq_ok.mp hvisibility
      parameters := ⟨items, listOf_eq_ok.mp hitems, parameters_eq_ok.mp hparameters⟩
      returns := textOf_eq_ok.mp hreturns
      static := hstatic.symm }
  · intro h
    obtain ⟨items, hitems, hparameters⟩ := h.parameters
    refine Outcome.bind_eq_ok.mpr ⟨m.name, nameOf_eq_ok.mpr ⟨h.name, h.name_ne⟩, ?_⟩
    refine Outcome.bind_eq_ok.mpr ⟨m.visibility, visibility_eq_ok.mpr h.visibility, ?_⟩
    refine Outcome.bind_eq_ok.mpr ⟨items, listOf_eq_ok.mpr hitems, ?_⟩
    refine Outcome.bind_eq_ok.mpr ⟨m.parameters, parameters_eq_ok.mpr hparameters, ?_⟩
    refine Outcome.bind_eq_ok.mpr ⟨m.returnType, textOf_eq_ok.mpr h.returns, ?_⟩
    rw [hstatic, h.static]
    rfl

private theorem classInfo_eq_ok {c : ClassInfo} :
    classInfo path v = .ok c ↔ ∃ es, v.entries? = some es ∧ ClassEntries c es := by
  rw [classInfo, Outcome.bind_eq_ok]
  simp only [asMapping_eq_ok]
  refine exists_congr fun es => and_congr_right fun _ => ?_
  have hmethods {name : String} {items : List Value} {methods : List Method} :
      items.mapM (method path name) = .ok methods ↔ List.Forall₂
        (fun v m => ∃ es, v.entries? = some es ∧ MethodEntries m es) items methods := by
    simp only [Outcome.mapM_eq_ok, method_eq_ok]
  constructor
  · intro h
    obtain ⟨name, hname, h⟩ := Outcome.bind_eq_ok.mp h
    obtain ⟨items, hitems, h⟩ := Outcome.bind_eq_ok.mp h
    obtain ⟨methods, hmethod, h⟩ := Outcome.bind_eq_ok.mp h
    obtain ⟨items', hitems', h⟩ := Outcome.bind_eq_ok.mp h
    obtain ⟨parameters, hparameters, h⟩ := Outcome.bind_eq_ok.mp h
    cases h
    exact {
      name := (nameOf_eq_ok.mp hname).1
      name_ne := (nameOf_eq_ok.mp hname).2
      methods := ⟨items, listOf_eq_ok.mp hitems, hmethods.mp hmethod⟩
      constructor := ⟨items', listOf_eq_ok.mp hitems', parameters_eq_ok.mp hparameters⟩
      simpleName := rfl }
  · intro h
    obtain ⟨items, hitems, hmethod⟩ := h.methods
    obtain ⟨items', hitems', hparameters⟩ := h.constructor
    refine Outcome.bind_eq_ok.mpr ⟨c.canonicalName, nameOf_eq_ok.mpr ⟨h.name, h.name_ne⟩, ?_⟩
    refine Outcome.bind_eq_ok.mpr ⟨items, listOf_eq_ok.mpr hitems, ?_⟩
    refine Outcome.bind_eq_ok.mpr ⟨c.methods, hmethods.mpr hmethod, ?_⟩
    refine Outcome.bind_eq_ok.mpr ⟨items', listOf_eq_ok.mpr hitems', ?_⟩
    refine Outcome.bind_eq_ok.mpr
      ⟨c.constructorParameters, parameters_eq_ok.mpr hparameters, ?_⟩
    rw [h.simpleName]
    rfl

/-- A document is decoded to the classes that it describes. -/
theorem decode_eq_ok {classes : List ClassInfo} :
    decode path v = .ok classes ↔ Describes v classes := by
  by_cases hnull : v = .null
  · subst hnull
    constructor
    · intro h
      cases h
      exact .nothing
    · intro h
      cases h with
      | nothing => rfl
      | classes hentries _ _ => cases hentries
  · rw [decode_of_ne_null hnull]
    constructor
    · intro h
      obtain ⟨entries, hentries, h⟩ := Outcome.bind_eq_ok.mp h
      obtain ⟨items, hitems, h⟩ := Outcome.bind_eq_ok.mp h
      simp only [Outcome.mapM_eq_ok, classInfo_eq_ok] at h
      exact .classes (asMapping_eq_ok.mp hentries) (listOf_eq_ok.mp hitems) h
    · intro h
      cases h with
      | nothing => exact absurd rfl hnull
      | classes hentries hitems hclasses =>
        refine Outcome.bind_eq_ok.mpr ⟨_, asMapping_eq_ok.mpr hentries, ?_⟩
        refine Outcome.bind_eq_ok.mpr ⟨_, listOf_eq_ok.mpr hitems, ?_⟩
        simpa only [Outcome.mapM_eq_ok, classInfo_eq_ok] using hclasses

/-! ### What is described follows the schema -/

section Described

variable {α : Type} {P : Value → Prop} {R : Value → α → Prop} {key : String} {items : List Value}
  {results : List α}

private theorem forall_of_forall₂ (h : List.Forall₂ R items results)
    (hP : ∀ x y, R x y → P x) : ∀ x ∈ items, P x := by
  induction h with
  | nil => nofun
  | cons hxy _ ih =>
    intro x hx
    rcases List.mem_cons.mp hx with rfl | hx
    · exact hP _ _ hxy
    · exact ih x hx

private theorem listUnder_of_gives (h : GivesItems entries key items) (hP : ∀ x ∈ items, P x) :
    ListUnder P entries key := by
  intro v hv hgiven
  cases h with
  | leftOut hkey => rw [hkey] at hv; cases hv
  | empty hkey hempty =>
    rw [hkey] at hv
    cases hv
    rw [hempty] at hgiven
    cases hgiven
  | listed hkey _ hitems =>
    rw [hkey] at hv
    cases hv
    exact ⟨items, hitems, hP⟩

private theorem items_of_empty (hempty : v.isTruthy = false) (hitems : v.items? = some items) :
    items = [] := by
  cases v with
  | list xs =>
    rw [Value.items?_list] at hitems
    cases hitems
    simpa [Value.isTruthy] using hempty
  | cycle _ _ => cases hempty
  | _ => cases hitems

private theorem itemsUnder_of_gives (h : GivesItems entries key items) (hP : ∀ x ∈ items, P x) :
    ItemsUnder P entries key := by
  intro v items' hv hitems'
  cases h with
  | leftOut hkey => rw [hkey] at hv; cases hv
  | empty hkey hempty =>
    rw [hkey] at hv
    cases hv
    rw [items_of_empty hempty hitems']
    exact hP
  | listed hkey _ hitems =>
    rw [hkey] at hv
    cases hv
    rw [hitems] at hitems'
    cases hitems'
    exact hP

private theorem textUnder_of_gives {default text : String}
    (h : GivesText entries key default text) : TextUnder entries key := by
  intro v hv
  cases h with
  | leftOut hkey => rw [hkey] at hv; cases hv
  | shown hkey htext =>
    rw [hkey] at hv
    cases hv
    exact ⟨text, htext⟩

end Described

private theorem schema_of_parameter {p : Parameter}
    (h : ∃ es, v.entries? = some es ∧ ParameterEntries p es) :
    ParameterSchema v ∧ ParameterTexts v := by
  obtain ⟨es, hes, ⟨name, hname, hnameText⟩, ⟨type, htype, htypeText⟩⟩ := h
  refine ⟨⟨es, hes, by rw [hname]; rfl, by rw [htype]; rfl⟩, fun es' hes' => ?_⟩
  rw [hes] at hes'
  cases hes'
  constructor
  · intro v hv
    rw [hname] at hv
    cases hv
    exact ⟨_, hnameText⟩
  · intro v hv
    rw [htype] at hv
    cases hv
    exact ⟨_, htypeText⟩

private theorem schema_of_method {m : Method}
    (h : ∃ es, v.entries? = some es ∧ MethodEntries m es) : MethodSchema v ∧ MethodTexts v := by
  obtain ⟨es, hes, h⟩ := h
  obtain ⟨text, htext, hword⟩ := h.visibility
  obtain ⟨items, hitems, hparameters⟩ := h.parameters
  have hvisibility : VisibilitySchema es := by
    intro v text' hv htext'
    cases htext with
    | leftOut hkey => rw [hkey] at hv; cases hv
    | shown hkey htext =>
      rw [hkey] at hv
      cases hv
      rw [htext] at htext'
      cases htext'
      exact ⟨m.visibility, hword⟩
  refine ⟨⟨es, hes, ⟨m.name, h.name, h.name_ne⟩, hvisibility, ?_⟩, fun es' hes' => ?_⟩
  · refine listUnder_of_gives hitems ?_
    exact forall_of_forall₂ hparameters fun _ _ hp => (schema_of_parameter hp).1
  · rw [hes] at hes'
    cases hes'
    refine ⟨textUnder_of_gives htext, textUnder_of_gives h.returns, ?_⟩
    refine itemsUnder_of_gives hitems ?_
    exact forall_of_forall₂ hparameters fun _ _ hp => (schema_of_parameter hp).2

private theorem schema_of_class {c : ClassInfo}
    (h : ∃ es, v.entries? = some es ∧ ClassEntries c es) : ClassSchema v ∧ ClassTexts v := by
  obtain ⟨es, hes, h⟩ := h
  obtain ⟨items, hitems, hmethods⟩ := h.methods
  obtain ⟨items', hitems', hparameters⟩ := h.constructor
  refine ⟨⟨es, hes, ⟨c.canonicalName, h.name, h.name_ne⟩, ?_, ?_⟩, fun es' hes' => ?_⟩
  · refine listUnder_of_gives hitems ?_
    exact forall_of_forall₂ hmethods fun _ _ hm => (schema_of_method hm).1
  · refine listUnder_of_gives hitems' ?_
    exact forall_of_forall₂ hparameters fun _ _ hp => (schema_of_parameter hp).1
  · rw [hes] at hes'
    cases hes'
    constructor
    · refine itemsUnder_of_gives hitems ?_
      exact forall_of_forall₂ hmethods fun _ _ hm => (schema_of_method hm).2
    · refine itemsUnder_of_gives hitems' ?_
      exact forall_of_forall₂ hparameters fun _ _ hp => (schema_of_parameter hp).2

/-- A document that describes classes follows the schema, and has texts where they are needed. -/
theorem Describes.followsSchema {classes : List ClassInfo} (h : Describes v classes) :
    FollowsSchema v ∧ HasTexts v := by
  cases h with
  | nothing => exact ⟨.inl rfl, nofun⟩
  | classes hentries hitems hclasses =>
    refine ⟨.inr ⟨_, hentries, ?_⟩, fun es' hes' => ?_⟩
    · refine listUnder_of_gives hitems ?_
      exact forall_of_forall₂ hclasses fun _ _ hc => (schema_of_class hc).1
    · rw [hentries] at hes'
      cases hes'
      refine itemsUnder_of_gives hitems ?_
      exact forall_of_forall₂ hclasses fun _ _ hc => (schema_of_class hc).2

end TestSkeleton.Manifest
