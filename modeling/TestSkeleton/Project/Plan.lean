import TestSkeleton.Disk.Adapter
import TestSkeleton.Json.Writer
import TestSkeleton.Text.Margin
import TestSkeleton.Toml.Writer
import TestSkeleton.Yaml.Writer

/-!
# Project plans

The files of a new project, planned as data and written in the order of the plan, the project file
last. A plan that fails at a file leaves the files before it.

Workspace factory of `stubwright-test-utils`; specification `SPEC_FULL.md:254–255`.
-/

namespace TestSkeleton

/-- A file of a plan. -/
inductive PlannedFile where
  /-- The project file, with the given tables. -/
  | settings (tables : List (Value × Value))
  /-- A manifest; its path decides the format. -/
  | manifest (path : String) (classes : Value)
  /-- A text, whose margin is dropped. -/
  | source (path text : String)
deriving Repr, Inhabited

namespace PlannedFile

/-- Where a file goes. -/
def path : PlannedFile → String
  | settings _ => "pyproject.toml"
  | manifest path _ | source path _ => path

/-- The text of a file, and the fault of a value that the format does not have. -/
def content : PlannedFile → String × Option Fault
  | settings tables =>
    let written := Toml.write tables
    (written.text, if written.failed then some .wrongKind else none)
  | manifest path classes =>
    let entries := [(Value.text "classes", classes)]
    (if (Text.stripEnd? ".json" path).isSome then Json.write .indented (.map entries)
      else Yaml.write entries, none)
  | source _ text => (Text.dedent text, none)

/-- Writes a file and the directories above it. -/
def write (root : Path) (f : PlannedFile) : ExceptT Failure (StateM Disk) Unit := fun disk =>
  let path := root.joinText f.path
  match disk.makeDirs path.parent with
  | (.error e, disk) => (.error e, disk)
  | (.ok (), disk) =>
    match disk.write path f.content.1.toUTF8 with
    | .error e => (.error e, disk)
    | .ok disk =>
      match f.content.2 with
      | some fault => (.error (.fault fault), disk)
      | none => (.ok (), disk)

end PlannedFile

/-- What a new project holds.
`WorkspaceFactory`. -/
structure ProjectPlan where
  settings : Option Value := none
  name : Option Value := none
  files : List PlannedFile := []
deriving Repr, Inhabited

namespace ProjectPlan

/-- The tables of the project file. -/
def tables (p : ProjectPlan) : List (Value × Value) :=
  (p.settings.map fun v => (Value.text "tool", Value.ofTextEntries [("stubwright", v)])).toList
    ++ (p.name.map fun n => (Value.text "project", Value.ofTextEntries [("name", n)])).toList

/-- The files of a plan. Without settings and a name there is no project file. -/
def allFiles (p : ProjectPlan) : List PlannedFile :=
  p.files ++ (if p.tables.isEmpty then [] else [.settings p.tables])

/-- Writes all files of a plan.
`WorkspaceFactory.build`. -/
def build (p : ProjectPlan) (root : Path) : ExceptT Failure (StateM Disk) Unit :=
  p.allFiles.forM (PlannedFile.write root)

end ProjectPlan
end TestSkeleton
