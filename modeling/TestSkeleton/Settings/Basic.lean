import TestSkeleton.Document.Display
import TestSkeleton.Failure

/-!
# Settings

What a project may set for its runs. The values of a settings table are checked in a fixed order;
keys that no setting has do not matter. A number of variants is never negative and a line separator
never empty, which the type states.

Loader of `stubwright-config`; specification `SPEC_FULL.md:202–215`.
-/

namespace TestSkeleton

/-- The settings of a run.
`StubwrightConfig`, `SPEC_FULL.md:205–212`. -/
structure Settings where
  outputPath : String := "src/test/java"
  descriptors : List String := ["stubwright.yaml"]
  variants : Nat := 1
  lineSeparator : String := "\n"
  framework : String := "junit5"
  fileExtension : String := ".java"
  lineSeparator_ne_empty : lineSeparator ≠ "" := by decide
deriving DecidableEq, Repr

namespace Settings

/-- The settings of a project that sets nothing. -/
def standard : Settings := {}

instance : Inhabited Settings := ⟨standard⟩

/-- A text under a key, or its default. -/
def textOf (entries : List (Value × Value)) (key default : String) : Except SettingsProblem String :=
  match Value.get? entries key with
  | none => .ok default
  | some (.text s) => .ok s
  | some v => .error (.wrongType key "str" v.kindName)

/-- The items of a list under a key, or some texts as their default. -/
def itemsOf (entries : List (Value × Value)) (key : String) (default : List String) :
    Except SettingsProblem (List Value) :=
  match Value.get? entries key with
  | none => .ok (default.map .text)
  | some v =>
    match v.items? with
    | some items => .ok items
    | none => .error (.wrongType key "list" v.kindName)

/-- The number of variants. A truth value is no number. -/
def variantsOf (entries : List (Value × Value)) (default : Nat) : Except SettingsProblem Nat :=
  match Value.get? entries "variants_per_method" with
  | none => .ok default
  | some (.int i) => if i < 0 then .error (.negativeVariants i) else .ok i.toNat
  | some _ => .error .variantsNotInteger

/-- The checked values of a table. The descriptors are still to be displayed. -/
structure Checked where
  settings : Settings
  descriptors : List Value

/-- Checks the values of a table. -/
def check (entries : List (Value × Value)) : Except SettingsProblem Checked := do
  let defaults := standard
  let outputPath ← textOf entries "output_path" defaults.outputPath
  let lineSeparator ← textOf entries "line_separator" defaults.lineSeparator
  let framework ← textOf entries "framework" defaults.framework
  let fileExtension ← textOf entries "file_extension" defaults.fileExtension
  let descriptors ← itemsOf entries "descriptors" defaults.descriptors
  let variants ← variantsOf entries defaults.variants
  if h : lineSeparator = "" then throw .emptyLineSeparator
  else return {
    descriptors
    settings := {
      outputPath, variants, lineSeparator, framework, fileExtension
      lineSeparator_ne_empty := h } }

/-- The settings of a table. Descriptors that are no texts are displayed.
`_parse_config`, `SPEC_FULL.md:205–214`. -/
def ofEntries (entries : List (Value × Value)) : Except Failure Settings := do
  let checked ← (check entries).mapError .settings
  let descriptors ← Failure.ofFault (checked.descriptors.mapM Value.shown)
  return { checked.settings with descriptors }

/-- The keys whose values are checked first. -/
def checkedKeys : List String :=
  ["output_path", "line_separator", "framework", "file_extension", "descriptors"]

private def occursIn (part : List Char) : List Char → Bool
  | [] => part.isEmpty
  | c :: rest => part.isPrefixOf (c :: rest) || occursIn part rest

/-- The fault of a settings value that is no table. Texts and lists can be searched for a key before
they turn out to have no entries. -/
def faultOf (v : Value) : Fault :=
  match v.opened with
  | .text s =>
    if checkedKeys.any fun k => occursIn k.toList s.toList then .wrongKind else .missingMember
  | .list items =>
    if checkedKeys.any fun k => items.any fun v => v.sameKey (.text k) then .wrongKind
    else .missingMember
  | _ => .wrongKind

/-- The settings of a value, which should be a table. -/
def ofValue (v : Value) : Except Failure Settings :=
  match v.entries? with
  | some entries => ofEntries entries
  | none => .error (.fault (faultOf v))

end Settings

/-- What a caller sets over the settings of a project. -/
structure Overrides where
  variants : Option Int := none
  outputPath : Option String := none
  descriptors : Option (List String) := none
deriving DecidableEq, Repr, Inhabited

/-- Settings with what is overridden. An empty list of descriptors overrides nothing.
`StubwrightApp.load_config`, `SPEC_FULL.md:242–243`. -/
def Settings.override (s : Settings) (o : Overrides) : Except SettingsProblem Settings := do
  let variants ← match o.variants with
    | none => pure s.variants
    | some n => if n < 0 then throw (.negativeOverride n) else pure n.toNat
  return {
    s with
    variants
    outputPath := o.outputPath.getD s.outputPath
    descriptors := match o.descriptors with
      | none | some [] => s.descriptors
      | some ds => ds }

end TestSkeleton
