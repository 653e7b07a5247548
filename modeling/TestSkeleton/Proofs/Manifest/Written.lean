import TestSkeleton.Proofs.Manifest.Schema

/-!
# Writing manifests

How classes are written as a document: which key stands for what, and which keys may be left out.
Keys come in any order, each key that holds its default may be left out by itself, and the word for
a visibility may be written in any case. Every such document is decoded to the classes that were
written.

Specification: `SPEC_FULL.md:180–196`.
-/

namespace TestSkeleton.Manifest

open Java

/-! ### Fields of a mapping -/

/-- A key with the value that is written under it. The key may be left out if the value is the
default. -/
structure Field where
  key : String
  value : Value
  IsDefault : Prop

/-- The entry for a field. -/
def Field.entry (field : Field) : Value × Value := (.text field.key, field.value)

/-- The entries hold the fields, in any order. All that are left out have their default. -/
def Writes (fields : List Field) (entries : Entries) : Prop :=
  ∃ kept : List Field, kept.Sublist fields ∧ (∀ field ∈ fields, field ∈ kept ∨ field.IsDefault) ∧
    entries.Perm (kept.map Field.entry)

/-- A field may be written as an entry, all of them. -/
theorem writes_all (fields : List Field) : Writes fields (fields.map Field.entry) :=
  ⟨fields, .refl _, fun _ hfield => .inl hfield, .refl _⟩

/-! ### Manifests -/

/-- The fields of a parameter. -/
def parameterFields (p : Parameter) : List Field := [
  ⟨"name", .text p.name, False⟩,
  ⟨"type", .text p.type, False⟩]

/-- The fields of a method with a word for its visibility and its parameters as written. -/
def methodFields (m : Method) (word : String) (parameters : List Value) : List Field := [
  ⟨"name", .text m.name, False⟩,
  ⟨"visibility", .text word, m.visibility = .isPublic⟩,
  ⟨"static", .bool m.isStatic, m.isStatic = false⟩,
  ⟨"returns", .text m.returnType, m.returnType = "void"⟩,
  ⟨"parameters", .list parameters, parameters = []⟩]

/-- The fields of a class with its constructor and its methods as written. -/
def classFields (c : ClassInfo) (constructor methods : List Value) : List Field := [
  ⟨"name", .text c.canonicalName, False⟩,
  ⟨"simple_name", c.givenName, c.givenName = .null⟩,
  ⟨"constructor", .list constructor, constructor = []⟩,
  ⟨"methods", .list methods, methods = []⟩]

/-- A value writes a parameter. -/
def WritesParameter (p : Parameter) (v : Value) : Prop :=
  ∃ entries, v = .map entries ∧ Writes (parameterFields p) entries

/-- A value writes a method, its visibility in any case of letters. -/
def WritesMethod (m : Method) (v : Value) : Prop :=
  ∃ entries word parameters, v = .map entries ∧ word.toLower = m.visibility.word ∧
    List.Forall₂ WritesParameter m.parameters parameters ∧
    Writes (methodFields m word parameters) entries

/-- A value writes a class. -/
def WritesClass (c : ClassInfo) (v : Value) : Prop :=
  ∃ entries constructor methods, v = .map entries ∧
    List.Forall₂ WritesParameter c.constructorParameters constructor ∧
    List.Forall₂ WritesMethod c.methods methods ∧ Writes (classFields c constructor methods) entries

/-- A document writes classes. -/
def WritesManifest (classes : List ClassInfo) (v : Value) : Prop :=
  ∃ entries items, v = .map entries ∧ List.Forall₂ WritesClass classes items ∧
    Writes [⟨"classes", .list items, items = []⟩] entries

/-- A class has a name, and so has each of its methods. -/
structure Writable (c : ClassInfo) : Prop where
  name_ne : c.canonicalName ≠ ""
  methods_ne : ∀ m ∈ c.methods, m.name ≠ ""

/-! ### Every class can be written -/

/-- Values for all items of a list make a list of values. -/
theorem exists_forall₂ {α : Type} {R : α → Value → Prop} (h : ∀ x, ∃ v, R x v) (xs : List α) :
    ∃ vs, List.Forall₂ R xs vs := by
  choose write hwrite using h
  exact ⟨xs.map write, List.forall₂_map_right_iff.mpr (List.forall₂_same.mpr fun x _ => hwrite x)⟩

/-- Every parameter can be written. -/
theorem exists_writesParameter (p : Parameter) : ∃ v, WritesParameter p v :=
  ⟨_, _, rfl, writes_all _⟩

/-- Every method can be written. -/
theorem exists_writesMethod (m : Method) : ∃ v, WritesMethod m v := by
  obtain ⟨parameters, hparameters⟩ := exists_forall₂ exists_writesParameter m.parameters
  have hword : m.visibility.word.toLower = m.visibility.word := by
    cases m.visibility <;> decide +kernel
  exact ⟨_, _, _, _, rfl, hword, hparameters, writes_all _⟩

/-- Every class can be written. -/
theorem exists_writesClass (c : ClassInfo) : ∃ v, WritesClass c v := by
  obtain ⟨constructor, hconstructor⟩ :=
    exists_forall₂ exists_writesParameter c.constructorParameters
  obtain ⟨methods, hmethods⟩ := exists_forall₂ exists_writesMethod c.methods
  exact ⟨_, _, _, _, rfl, hconstructor, hmethods, writes_all _⟩

/-! ### What is read under a key -/

variable {fields : List Field} {field : Field} {entries : Entries} {key : String} {v : Value}

private theorem mem_of_get? (h : Value.get? entries key = some v) : (.text key, v) ∈ entries := by
  rw [Value.get?, Option.map_eq_some_iff] at h
  obtain ⟨⟨k, v'⟩, hfind, rfl⟩ := h
  have hkey := List.find?_some hfind
  split at hkey
  · next k' hk =>
    obtain rfl : k = .text k' := hk
    obtain rfl : k' = key := by simpa using hkey
    exact List.mem_of_find?_eq_some hfind
  · cases hkey

private theorem get?_isSome_of_mem (h : (.text key, v) ∈ entries) :
    (Value.get? entries key).isSome = true := by
  rw [Value.get?, Option.isSome_map, List.find?_isSome]
  exact ⟨_, h, by simp⟩

/-- Under the key of a field there is its value, or nothing if that is the default. -/
theorem Writes.get? {P : Prop} (h : Writes fields entries) (hkeys : (fields.map Field.key).Nodup)
    (hfield : ⟨key, v, P⟩ ∈ fields) :
    Value.get? entries key = some v ∨ P ∧ Value.get? entries key = none := by
  obtain ⟨kept, hsub, hdefault, hperm⟩ := h
  cases hget : Value.get? entries key with
  | some found =>
    obtain ⟨other, hother, hentry⟩ := List.mem_map.mp (hperm.mem_iff.mp (mem_of_get? hget))
    obtain ⟨hkey, rfl⟩ : other.key = key ∧ other.value = found := by
      simpa [Field.entry] using hentry
    have hsame : other = ⟨key, v, P⟩ :=
      List.inj_on_of_nodup_map hkeys (hsub.subset hother) hfield hkey
    exact .inl (by rw [hsame])
  | none =>
    refine .inr ⟨(hdefault _ hfield).resolve_left fun hkept => ?_, rfl⟩
    have hmem : (.text key, v) ∈ entries := hperm.mem_iff.mpr (List.mem_map_of_mem hkept)
    have hsome := get?_isSome_of_mem hmem
    rw [hget] at hsome
    cases hsome

private theorem givesText_of_written {default text : String}
    (h : Value.get? entries key = some (.text text) ∨
      text = default ∧ Value.get? entries key = none) : GivesText entries key default text := by
  rcases h with hkey | ⟨rfl, hkey⟩
  · exact .shown hkey (Value.shown_text text)
  · exact .leftOut hkey

private theorem givesItems_of_written {items : List Value}
    (h : Value.get? entries key = some (.list items) ∨
      items = [] ∧ Value.get? entries key = none) : GivesItems entries key items := by
  rcases h with hkey | ⟨rfl, hkey⟩
  · by_cases hitems : items = []
    · subst hitems
      exact .empty hkey rfl
    · exact .listed hkey (by simpa [Value.isTruthy] using hitems) rfl
  · exact .leftOut hkey

/-! ### Decoding what is written -/

private theorem parameterEntries_of_writes {p : Parameter} (h : WritesParameter p v) :
    ∃ es, v.entries? = some es ∧ ParameterEntries p es := by
  obtain ⟨es, rfl, hw⟩ := h
  have hkeys : ((parameterFields p).map Field.key).Nodup := by simp [parameterFields]
  have hname := (hw.get? hkeys (.head _)).resolve_right And.left
  have htype := (hw.get? hkeys (.tail _ (.head _))).resolve_right And.left
  exact ⟨es, rfl, ⟨_, hname, Value.shown_text _⟩, ⟨_, htype, Value.shown_text _⟩⟩

private theorem parametersEntries_of_writes {parameters : List Parameter} {items : List Value}
    (h : List.Forall₂ WritesParameter parameters items) : List.Forall₂
      (fun v p => ∃ es, v.entries? = some es ∧ ParameterEntries p es) items parameters :=
  (h.imp fun _ _ => parameterEntries_of_writes).flip

private theorem methodEntries_of_writes {m : Method} (hne : m.name ≠ "") (h : WritesMethod m v) :
    ∃ es, v.entries? = some es ∧ MethodEntries m es := by
  obtain ⟨es, word, parameters, rfl, hword, hparameters, hw⟩ := h
  have hkeys : ((methodFields m word parameters).map Field.key).Nodup := by simp [methodFields]
  have hvisibility := hw.get? hkeys (.tail _ (.head _))
  have hstatic := hw.get? hkeys (.tail _ (.tail _ (.head _)))
  have hreturns := hw.get? hkeys (.tail _ (.tail _ (.tail _ (.head _))))
  have hitems := hw.get? hkeys (.tail _ (.tail _ (.tail _ (.tail _ (.head _)))))
  have hlower : Text.lower word = m.visibility.word := by
    apply Text.lower_of_toLower hword
    cases m.visibility <;> decide +kernel
  refine ⟨es, rfl, {
    name := (hw.get? hkeys (.head _)).resolve_right And.left
    name_ne := hne
    visibility := ?_
    parameters := ⟨parameters, givesItems_of_written hitems,
      parametersEntries_of_writes hparameters⟩
    returns := givesText_of_written hreturns
    static := ?_ }⟩
  · rcases hvisibility with hkey | ⟨hpublic, hkey⟩
    · exact ⟨word, .shown hkey (Value.shown_text word), hlower⟩
    · rw [hpublic]
      exact ⟨"public", .leftOut hkey, by decide +kernel⟩
  · rcases hstatic with hkey | ⟨hfalse, hkey⟩
    · rw [hkey]
      rfl
    · rw [hkey, hfalse]
      rfl

private theorem classEntries_of_writes {c : ClassInfo} (hc : Writable c) (h : WritesClass c v) :
    ∃ es, v.entries? = some es ∧ ClassEntries c es := by
  obtain ⟨es, constructor, methods, rfl, hconstructor, hmethods, hw⟩ := h
  have hkeys : ((classFields c constructor methods).map Field.key).Nodup := by simp [classFields]
  have hgiven := hw.get? hkeys (.tail _ (.head _))
  have hparameters := hw.get? hkeys (.tail _ (.tail _ (.head _)))
  have hitems := hw.get? hkeys (.tail _ (.tail _ (.tail _ (.head _))))
  have hnamed := (List.forall₂_and_left _ _).mpr ⟨hc.methods_ne, hmethods⟩
  refine ⟨es, rfl, {
    name := (hw.get? hkeys (.head _)).resolve_right And.left
    name_ne := hc.name_ne
    methods := ⟨methods, givesItems_of_written hitems,
      (hnamed.imp fun _ _ hm => methodEntries_of_writes hm.1 hm.2).flip⟩
    constructor := ⟨constructor, givesItems_of_written hparameters,
      parametersEntries_of_writes hconstructor⟩
    simpleName := ?_ }⟩
  rcases hgiven with hkey | ⟨hnull, hkey⟩
  · rw [hkey]
    rfl
  · rw [hkey, hnull]
    rfl

/-- Classes can be written as a document, and every document that writes them is decoded to them:
whichever defaults it leaves out, in whatever order it has its keys, and in whatever case of letters
it has the words for visibilities. -/
theorem decode_written (path : Path) {classes : List ClassInfo}
    (hclasses : ∀ c ∈ classes, Writable c) :
    (∃ v, WritesManifest classes v) ∧
      ∀ v, WritesManifest classes v → decode path v = .ok classes := by
  constructor
  · obtain ⟨items, hitems⟩ := exists_forall₂ exists_writesClass classes
    exact ⟨_, _, items, rfl, hitems, writes_all _⟩
  · rintro v ⟨es, items, rfl, hitems, hw⟩
    have hkey := hw.get? (List.nodup_singleton _) (.head _)
    have hwritable := (List.forall₂_and_left _ _).mpr ⟨hclasses, hitems⟩
    apply decode_eq_ok.mpr
    apply Describes.classes (Value.entries?_map es) (givesItems_of_written hkey)
    exact (hwritable.imp fun _ _ hc => classEntries_of_writes hc.1 hc.2).flip

/-- A class with its keys in another order, most of them left out, and a visibility with a capital
letter. -/
theorem decode_written_resize :
    decode {} (.map [(.text "classes", .list [.map [
        (.text "methods", .list [.map [
          (.text "visibility", .text "Package"), (.text "name", .text "resize")]]),
        (.text "name", .text "Widget")]])]) =
      .ok [{ canonicalName := "Widget"
             methods := [{ name := "resize", visibility := .isPackage }] }] := by
  refine (decode_written {} ?_).2 _ ?_
  · intro c hc
    obtain rfl := List.mem_singleton.mp hc
    exact ⟨by decide, by decide⟩
  have hmethod : WritesMethod { name := "resize", visibility := .isPackage }
      (.map [(.text "visibility", .text "Package"), (.text "name", .text "resize")]) := by
    let kept : List Field := [
      ⟨"name", .text "resize", False⟩,
      ⟨"visibility", .text "Package", Visibility.isPackage = .isPublic⟩]
    refine ⟨_, "Package", [], rfl, by decide +kernel, .nil, kept, ?_, ?_, .swap _ _ []⟩
    · exact .cons_cons _ (.cons_cons _ (List.nil_sublist _))
    · simp [kept, methodFields]
  have hclass : WritesClass
      { canonicalName := "Widget", methods := [{ name := "resize", visibility := .isPackage }] }
      (.map [(.text "methods", .list [.map [
        (.text "visibility", .text "Package"), (.text "name", .text "resize")]]),
        (.text "name", .text "Widget")]) := by
    let methods : List Value :=
      [.map [(.text "visibility", .text "Package"), (.text "name", .text "resize")]]
    let kept : List Field := [
      ⟨"name", .text "Widget", False⟩, ⟨"methods", .list methods, methods = []⟩]
    refine ⟨_, [], methods, rfl, .nil, .cons hmethod .nil, kept, ?_, ?_, .swap _ _ []⟩
    · exact .cons_cons _ (.cons _ (.cons _ (.cons_cons _ (List.nil_sublist _))))
    · simp [kept, methods, classFields]
  exact ⟨_, _, rfl, .cons hclass .nil, writes_all _⟩

end TestSkeleton.Manifest
