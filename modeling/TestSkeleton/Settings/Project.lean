import TestSkeleton.Disk.Lookup
import TestSkeleton.Settings.Basic
import TestSkeleton.Toml.Reader

/-!
# The project of a directory

A project is a directory with a `pyproject.toml` file. Settings come from the nearest one above a
directory; the root of the disk is not searched for settings. Without a project the settings are the
defaults, and the directory itself counts as the project.

Loader of `stubwright-config` and root of `stubwright-needle`; specification `SPEC_FULL.md:202–203`
and `SPEC_FULL.md:214–215`.
-/

namespace TestSkeleton

/-- The file that marks a project. -/
def projectFile : Path := .ofString "pyproject.toml"

/-- The first of some directories that holds a project file. -/
def firstProject? (disk : Disk) : List Path → Except Failure (Option Path)
  | [] => .ok none
  | dir :: rest => do
    if ← disk.isFile (dir.join projectFile) then return some dir else firstProject? disk rest

/-- The project that a directory belongs to: the nearest one at or above it, or else the directory
itself.
`project_root` of `stubwright-needle`. -/
def projectOf (disk : Disk) (dir : Path) : Except Failure Path := do
  return (← firstProject? disk dir.resolve.selfAndAncestors).getD dir.resolve

namespace Settings

/-- The project that gives a directory its settings, if there is one below the root.
`_find_pyproject_toml`, `SPEC_FULL.md:202–203`. -/
def project? (disk : Disk) (dir : Path) : Except Failure (Option Path) :=
  firstProject? disk dir.resolve.selfAndAncestors.dropLast

/-- The entry of a table, or an empty table. A value that is no table has no entries to look in. -/
def section_ (v : Value) (key : String) : Except Failure Value :=
  match v with
  | .map entries => .ok ((Value.get? entries key).getD (.map []))
  | _ => .error (.fault .missingMember)

/-- The settings in a project file. -/
def parse (path : Path) (content : ByteArray) : Except Failure Settings :=
  match String.fromUTF8? content with
  | none => .error (.fault .undecodable)
  | some text =>
    match Toml.read text with
    | .error .malformed => .error (.settings (.unreadable path))
    | .error (.fault f) => .error (.fault f)
    | .ok entries => do ofValue (← section_ (← section_ (.map entries) "tool") "stubwright")

/-- The settings that hold in a directory.
`load_config_from_path`, `SPEC_FULL.md:202–215`. -/
def load (disk : Disk) (dir : Path) : Except Failure Settings := do
  match ← project? disk dir with
  | none => return standard
  | some project =>
    let path := project.join projectFile
    parse path (← disk.read path)

/-- The settings that hold in a directory, with what a caller sets over them.
`StubwrightApp.load_config`, `SPEC_FULL.md:242–243`. -/
def loadWith (disk : Disk) (dir : Path) (o : Overrides) : Except Failure Settings := do
  ((← load disk dir).override o).mapError .settings

end Settings
end TestSkeleton
