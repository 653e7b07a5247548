import TestSkeleton.Manifest.Loader
import TestSkeleton.Proofs.Disk.Faults

/-!
# Faults of manifests

What in a manifest no check looks at: values that a document cannot have, and values without a text
where a text is expected. A descriptor path meets a fault exactly where the first of its manifests
that cannot be loaded has one of these.
-/

namespace TestSkeleton.Manifest

open Java
open Outcome (FirstWith)

variable {disk : Disk} {path : Path} {owner : String} {v : Value} {entries : Entries} {f : Fault}
  {format : Format} {content : ByteArray}

/-! ### Values without a text -/

/-- A value under a key has no text. -/
def ValueFault (entries : Entries) (key : String) (f : Fault) : Prop :=
  ∃ v, Value.get? entries key = some v ∧ v.shown = .error f

/-- The name of a parameter, or else its type, has no text. -/
inductive ParameterFault (v : Value) : Fault → Prop
  | name {entries : Entries} {type : Value} {f : Fault} (hentries : v.entries? = some entries)
      (htype : Value.get? entries "type" = some type) (hname : ValueFault entries "name" f) :
      ParameterFault v f
  | type {entries : Entries} {name : Value} {text : String} {f : Fault}
      (hentries : v.entries? = some entries) (hname : Value.get? entries "name" = some name)
      (htext : name.shown = .ok text) (htype : ValueFault entries "type" f) : ParameterFault v f

/-- A method has a value without a text: its visibility, something in its parameters, or what it
returns. Everything before it is in order. -/
inductive MethodFault (path : Path) (owner : String) (v : Value) : Fault → Prop
  | visibility {entries : Entries} {name : String} {f : Fault} (hentries : v.entries? = some entries)
      (hname : nameOf (.manifest path (.methodWithoutName owner)) entries = .ok name)
      (hvisibility : ValueFault entries "visibility" f) : MethodFault path owner v f
  | parameter {entries : Entries} {name : String} {word : Visibility} {items : List Value}
      {f : Fault} (hentries : v.entries? = some entries)
      (hname : nameOf (.manifest path (.methodWithoutName owner)) entries = .ok name)
      (hvisibility : Manifest.visibility path owner name entries = .ok word)
      (hitems : listOf (.manifest path (.notList "parameters")) entries "parameters" = .ok items)
      (hparameter : FirstWith (Manifest.parameter path (owner ++ "." ++ name))
        (ParameterFault · f) items) : MethodFault path owner v f
  | returns {entries : Entries} {name : String} {word : Visibility} {items : List Value}
      {parameters : List Parameter} {f : Fault} (hentries : v.entries? = some entries)
      (hname : nameOf (.manifest path (.methodWithoutName owner)) entries = .ok name)
      (hvisibility : Manifest.visibility path owner name entries = .ok word)
      (hitems : listOf (.manifest path (.notList "parameters")) entries "parameters" = .ok items)
      (hparameters : items.mapM (Manifest.parameter path (owner ++ "." ++ name)) = .ok parameters)
      (hreturns : ValueFault entries "returns" f) : MethodFault path owner v f

/-- A class has a value without a text in one of its methods, or else in its constructor. -/
inductive ClassFault (path : Path) (v : Value) : Fault → Prop
  | method {entries : Entries} {name : String} {items : List Value} {f : Fault}
      (hentries : v.entries? = some entries)
      (hname : nameOf (.manifest path .classWithoutName) entries = .ok name)
      (hitems : listOf (.manifest path (.notList "methods")) entries "methods" = .ok items)
      (hmethod : FirstWith (Manifest.method path name) (MethodFault path name · f) items) :
      ClassFault path v f
  | constructor {entries : Entries} {name : String} {items parameters : List Value}
      {methods : List Method} {f : Fault} (hentries : v.entries? = some entries)
      (hname : nameOf (.manifest path .classWithoutName) entries = .ok name)
      (hitems : listOf (.manifest path (.notList "methods")) entries "methods" = .ok items)
      (hmethods : items.mapM (Manifest.method path name) = .ok methods)
      (hparameters : listOf (.manifest path (.notList "constructor")) entries "constructor" =
        .ok parameters)
      (hparameter : FirstWith (Manifest.parameter path name) (ParameterFault · f) parameters) :
      ClassFault path v f

/-- A fault that a manifest has: in the reading of its document, or in one of its classes. -/
inductive HasFault (format : Format) (path : Path) (content : ByteArray) : Fault → Prop
  | document {f : Fault} (hread : format.read content = .error (.fault f)) :
      HasFault format path content f
  | class_ {v : Value} {entries : Entries} {items : List Value} {f : Fault}
      (hread : format.read content = .ok v) (hentries : v.entries? = some entries)
      (hitems : listOf (.manifest path .classesNotList) entries "classes" = .ok items)
      (hclass : FirstWith (classInfo path) (ClassFault path · f) items) :
      HasFault format path content f

private theorem textOf_eq_fault {key default : String} :
    textOf entries key default = .error (.fault f) ↔ ValueFault entries key f := by
  rw [textOf, ValueFault]
  cases Value.get? entries key with
  | none => simp
  | some v => simp [Failure.ofFault_eq_fault]

/-- A mapping is read as its entries. -/
theorem asMapping_eq_ok {failure : Failure} :
    asMapping failure v = .ok entries ↔ v.entries? = some entries := by
  rw [asMapping]
  cases v.entries? <;> simp

/-- A value that is no mapping fails as it is told to. -/
theorem asMapping_eq_error {failure e : Failure} (h : asMapping failure v = .error e) :
    e = failure := by
  rw [asMapping] at h
  split at h <;> cases h
  rfl

/-- A name that is none fails as it is told to. -/
theorem nameOf_eq_error {failure e : Failure} (h : nameOf failure entries = .error e) :
    e = failure := by
  rw [nameOf] at h
  split at h
  · split at h <;> cases h
    rfl
  · cases h
    rfl

/-- A list that is none fails as it is told to. -/
theorem listOf_eq_error {failure e : Failure} {key : String}
    (h : listOf failure entries key = .error e) : e = failure := by
  rw [listOf] at h
  split at h
  · cases h
  · split at h
    · cases h
    · split at h <;> cases h
      rfl

private theorem asMapping_ne_fault {problem : ManifestProblem} :
    asMapping (.manifest path problem) v ≠ .error (.fault f) := fun h =>
  Failure.noConfusion (asMapping_eq_error h)

private theorem nameOf_ne_fault {problem : ManifestProblem} :
    nameOf (.manifest path problem) entries ≠ .error (.fault f) := fun h =>
  Failure.noConfusion (nameOf_eq_error h)

private theorem listOf_ne_fault {problem : ManifestProblem} {key : String} :
    listOf (.manifest path problem) entries key ≠ .error (.fault f) := fun h =>
  Failure.noConfusion (listOf_eq_error h)

private theorem parameter_eq_fault :
    parameter path owner v = .error (.fault f) ↔ ParameterFault v f := by
  rw [parameter]
  constructor
  · intro h
    obtain ⟨entries, hentries, h⟩ := (Outcome.bind_eq_error.mp h).resolve_left asMapping_ne_fault
    replace hentries := asMapping_eq_ok.mp hentries
    cases hname : Value.get? entries "name" with
    | none => rw [hname] at h; cases h
    | some name =>
      cases htype : Value.get? entries "type" with
      | none => rw [hname, htype] at h; cases h
      | some type =>
        rw [hname, htype] at h
        rcases Outcome.bind_eq_error.mp h with h | ⟨text, htext, h⟩
        · exact .name hentries htype ⟨name, hname, Failure.ofFault_eq_fault.mp h⟩
        · rcases Outcome.bind_eq_error.mp h with h | ⟨_, -, h⟩
          · exact .type hentries hname (Failure.ofFault_eq_ok.mp htext)
              ⟨type, htype, Failure.ofFault_eq_fault.mp h⟩
          · cases h
  · rintro (⟨hentries, htype, name, hname, hshown⟩ | ⟨hentries, hname, htext, type, htype, hshown⟩)
    · refine Outcome.bind_error_of_ok (asMapping_eq_ok.mpr hentries) ?_
      rw [hname, htype]
      exact Outcome.bind_error_of_error (Failure.ofFault_eq_fault.mpr hshown)
    · refine Outcome.bind_error_of_ok (asMapping_eq_ok.mpr hentries) ?_
      rw [hname, htype]
      refine Outcome.bind_error_of_ok (Failure.ofFault_eq_ok.mpr htext) ?_
      exact Outcome.bind_error_of_error (Failure.ofFault_eq_fault.mpr hshown)

private theorem visibility_eq_fault {name : String} :
    visibility path owner name entries = .error (.fault f) ↔ ValueFault entries "visibility" f := by
  rw [visibility, Outcome.bind_eq_error, textOf_eq_fault]
  refine or_iff_left ?_
  rintro ⟨text, -, h⟩
  dsimp only at h
  split at h <;> cases h

private theorem method_eq_fault :
    method path owner v = .error (.fault f) ↔ MethodFault path owner v f := by
  rw [method]
  constructor
  · intro h
    obtain ⟨entries, hentries, h⟩ := (Outcome.bind_eq_error.mp h).resolve_left asMapping_ne_fault
    replace hentries := asMapping_eq_ok.mp hentries
    obtain ⟨name, hname, h⟩ := (Outcome.bind_eq_error.mp h).resolve_left nameOf_ne_fault
    rcases Outcome.bind_eq_error.mp h with h | ⟨word, hvisibility, h⟩
    · exact .visibility hentries hname (visibility_eq_fault.mp h)
    obtain ⟨items, hitems, h⟩ := (Outcome.bind_eq_error.mp h).resolve_left listOf_ne_fault
    rcases Outcome.bind_eq_error.mp h with h | ⟨parameters, hparameters, h⟩
    · exact .parameter hentries hname hvisibility hitems
        ((Outcome.mapM_eq_error_iff (fun _ => parameter_eq_fault) _).mp h)
    rcases Outcome.bind_eq_error.mp h with h | ⟨_, -, h⟩
    · exact .returns hentries hname hvisibility hitems hparameters (textOf_eq_fault.mp h)
    · cases h
  · intro h
    cases h with
    | visibility hentries hname hvisibility =>
      refine Outcome.bind_error_of_ok (asMapping_eq_ok.mpr hentries) ?_
      refine Outcome.bind_error_of_ok hname ?_
      exact Outcome.bind_error_of_error (visibility_eq_fault.mpr hvisibility)
    | parameter hentries hname hvisibility hitems hparameter =>
      refine Outcome.bind_error_of_ok (asMapping_eq_ok.mpr hentries) ?_
      refine Outcome.bind_error_of_ok hname ?_
      refine Outcome.bind_error_of_ok hvisibility ?_
      refine Outcome.bind_error_of_ok hitems ?_
      exact Outcome.bind_error_of_error
        ((Outcome.mapM_eq_error_iff (fun _ => parameter_eq_fault) _).mpr hparameter)
    | returns hentries hname hvisibility hitems hparameters hreturns =>
      refine Outcome.bind_error_of_ok (asMapping_eq_ok.mpr hentries) ?_
      refine Outcome.bind_error_of_ok hname ?_
      refine Outcome.bind_error_of_ok hvisibility ?_
      refine Outcome.bind_error_of_ok hitems ?_
      refine Outcome.bind_error_of_ok hparameters ?_
      exact Outcome.bind_error_of_error (textOf_eq_fault.mpr hreturns)

private theorem classInfo_eq_fault :
    classInfo path v = .error (.fault f) ↔ ClassFault path v f := by
  rw [classInfo]
  constructor
  · intro h
    obtain ⟨entries, hentries, h⟩ := (Outcome.bind_eq_error.mp h).resolve_left asMapping_ne_fault
    replace hentries := asMapping_eq_ok.mp hentries
    obtain ⟨name, hname, h⟩ := (Outcome.bind_eq_error.mp h).resolve_left nameOf_ne_fault
    obtain ⟨items, hitems, h⟩ := (Outcome.bind_eq_error.mp h).resolve_left listOf_ne_fault
    rcases Outcome.bind_eq_error.mp h with h | ⟨methods, hmethods, h⟩
    · exact .method hentries hname hitems
        ((Outcome.mapM_eq_error_iff (fun _ => method_eq_fault) _).mp h)
    obtain ⟨parameters, hparameters, h⟩ :=
      (Outcome.bind_eq_error.mp h).resolve_left listOf_ne_fault
    rcases Outcome.bind_eq_error.mp h with h | ⟨_, -, h⟩
    · exact .constructor hentries hname hitems hmethods hparameters
        ((Outcome.mapM_eq_error_iff (fun _ => parameter_eq_fault) _).mp h)
    · cases h
  · intro h
    cases h with
    | method hentries hname hitems hmethod =>
      refine Outcome.bind_error_of_ok (asMapping_eq_ok.mpr hentries) ?_
      refine Outcome.bind_error_of_ok hname ?_
      refine Outcome.bind_error_of_ok hitems ?_
      exact Outcome.bind_error_of_error
        ((Outcome.mapM_eq_error_iff (fun _ => method_eq_fault) _).mpr hmethod)
    | constructor hentries hname hitems hmethods hparameters hparameter =>
      refine Outcome.bind_error_of_ok (asMapping_eq_ok.mpr hentries) ?_
      refine Outcome.bind_error_of_ok hname ?_
      refine Outcome.bind_error_of_ok hitems ?_
      refine Outcome.bind_error_of_ok hmethods ?_
      refine Outcome.bind_error_of_ok hparameters ?_
      exact Outcome.bind_error_of_error
        ((Outcome.mapM_eq_error_iff (fun _ => parameter_eq_fault) _).mpr hparameter)

/-- A manifest that is not empty is decoded class by class. -/
theorem decode_of_ne_null (h : v ≠ .null) :
    decode path v = asMapping (.manifest path .rootNotMapping) v >>= fun entries =>
      listOf (.manifest path .classesNotList) entries "classes" >>= fun items =>
        items.mapM (classInfo path) := by
  cases v with
  | null => exact absurd rfl h
  | _ => rfl

/-- A document meets the fault of the first class that is not decoded. -/
theorem decode_eq_fault :
    decode path v = .error (.fault f) ↔ ∃ entries items, v.entries? = some entries ∧
      listOf (.manifest path .classesNotList) entries "classes" = .ok items ∧
      FirstWith (classInfo path) (ClassFault path · f) items := by
  by_cases hnull : v = .null
  · subst hnull
    exact ⟨nofun, fun ⟨_, _, hentries, _⟩ => by cases hentries⟩
  · rw [decode_of_ne_null hnull]
    constructor
    · intro h
      obtain ⟨entries, hentries, h⟩ := (Outcome.bind_eq_error.mp h).resolve_left asMapping_ne_fault
      obtain ⟨items, hitems, h⟩ := (Outcome.bind_eq_error.mp h).resolve_left listOf_ne_fault
      exact ⟨entries, items, asMapping_eq_ok.mp hentries, hitems,
        (Outcome.mapM_eq_error_iff (fun _ => classInfo_eq_fault) _).mp h⟩
    · rintro ⟨entries, items, hentries, hitems, hclass⟩
      refine Outcome.bind_error_of_ok (asMapping_eq_ok.mpr hentries) ?_
      exact Outcome.bind_error_of_ok hitems
        ((Outcome.mapM_eq_error_iff (fun _ => classInfo_eq_fault) _).mpr hclass)

/-- A descriptor path is loaded by what it leads to. -/
theorem load_of_find {found : Option (Place × Entry)} (h : disk.find? path = .ok found) :
    load disk path =
      match found with
      | none => .error (.manifest path .missing)
      | some (_, .directory) =>
        ((manifestsBelow disk path).mapM fun m => classesOf m.1 m.2.1 m.2.2).map List.flatten
      | some (_, .file _) => loadFile disk path := by
  have hexists : disk.pathExists path = .ok found.isSome := by rw [Disk.pathExists, h]; rfl
  have hdirectory : disk.isDirectory path = .ok (found.any fun x => !x.2.isFile) := by
    rw [Disk.isDirectory, h]; rfl
  rw [load, hexists, hdirectory]
  rcases found with _ | ⟨here, _ | content⟩
  · rfl
  · generalize (manifestsBelow disk path).mapM (fun m => classesOf m.1 m.2.1 m.2.2) = lists
    cases lists <;> rfl
  · generalize loadFile disk path = loaded
    rfl

end TestSkeleton.Manifest
