import TestSkeleton.Proofs.Disk.Faults
import TestSkeleton.Settings.Project

/-!
# Faults of settings

What in a project file no check looks at: bytes that are no text, values that a file cannot have,
tables that are none, and descriptors without a text. The settings of a directory meet a fault
exactly where its project file has one of these.

Specification: `SPEC_FULL.md:214`.
-/

namespace TestSkeleton

/-- A project that has been found has a project file, which can be read. -/
theorem read_of_firstProject? {disk : Disk} {dirs : List Path} {project : Path}
    (h : firstProject? disk dirs = .ok (some project)) :
    ∃ content, disk.read (project.join projectFile) = .ok content := by
  induction dirs with
  | nil => cases h
  | cons dir rest ih =>
    rw [firstProject?] at h
    obtain ⟨isFile, hfile, h⟩ := Outcome.bind_eq_ok.mp h
    cases isFile with
    | false => exact ih h
    | true =>
      cases h
      obtain ⟨found, hfound, hsome⟩ := Outcome.map_eq_ok.mp hfile
      rcases found with _ | ⟨here, _ | content⟩
      · cases hsome
      · cases hsome
      · obtain rfl := (Disk.find?_eq_some.mp hfound).1
        exact ⟨content, Disk.read_eq_ok_iff_find?.mpr hfound⟩

namespace Settings

variable {disk : Disk} {dir path : Path} {content : ByteArray} {f : Fault} {o : Overrides}
  {entries : List (Value × Value)}

/-- The tables of a project file. -/
def TablesOf (content : ByteArray) (entries : List (Value × Value)) : Prop :=
  ∃ text, String.fromUTF8? content = some text ∧ Toml.read text = .ok entries

/-- What stands under a key; nothing there counts as an empty table. -/
def entryOf (entries : List (Value × Value)) (key : String) : Value :=
  (Value.get? entries key).getD (.map [])

/-- A fault that the settings in a project file have. -/
inductive HasFault (content : ByteArray) : Fault → Prop
  /-- Bytes that are no text. -/
  | undecodable (hbytes : String.fromUTF8? content = none) : HasFault content .undecodable
  /-- A value that a project file cannot have. -/
  | value {text : String} {f : Fault} (htext : String.fromUTF8? content = some text)
      (hread : Toml.read text = .error (.fault f)) : HasFault content f
  /-- A table of tools that is none. -/
  | tool {tables : List (Value × Value)} (htables : TablesOf content tables)
      (htool : ∀ tools, entryOf tables "tool" ≠ .map tools) : HasFault content .missingMember
  /-- A settings table that is none. -/
  | table {tables tools : List (Value × Value)} (htables : TablesOf content tables)
      (htool : entryOf tables "tool" = .map tools)
      (htable : (entryOf tools "stubwright").entries? = none) :
      HasFault content (faultOf (entryOf tools "stubwright"))
  /-- A descriptor without a text, in a table that has passed its checks. -/
  | descriptor {tables tools table : List (Value × Value)} {checked : Checked} {f : Fault}
      (htables : TablesOf content tables) (htool : entryOf tables "tool" = .map tools)
      (htable : (entryOf tools "stubwright").entries? = some table)
      (hcheck : check table = .ok checked)
      (hshown : checked.descriptors.mapM Value.shown = .error f) : HasFault content f

/-- A table meets a fault at a descriptor without a text, once it has passed its checks. -/
theorem ofEntries_eq_fault :
    ofEntries entries = .error (.fault f) ↔
      ∃ checked, check entries = .ok checked ∧
        checked.descriptors.mapM Value.shown = .error f := by
  rw [ofEntries, Outcome.bind_eq_error]
  constructor
  · rintro (h | ⟨checked, hcheck, h⟩)
    · obtain ⟨problem, -, hproblem⟩ := Outcome.mapError_eq_error.mp h
      cases hproblem
    · rcases Outcome.bind_eq_error.mp h with h | ⟨shown, -, h⟩
      · exact ⟨checked, Outcome.mapError_eq_ok.mp hcheck, Failure.ofFault_eq_fault.mp h⟩
      · cases h
  · rintro ⟨checked, hcheck, hshown⟩
    exact .inr ⟨checked, Outcome.mapError_eq_ok.mpr hcheck,
      Outcome.bind_error_of_error (Failure.ofFault_eq_fault.mpr hshown)⟩

end Settings
end TestSkeleton
