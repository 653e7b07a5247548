import TestSkeleton.Fault
import TestSkeleton.Path
import TestSkeleton.Text.Quoted

/-!
# Failures

Why a run can end without its result, and the text that reports each cause. `Failure.message` is the
one place where these texts stand.

Errors of `stubwright-spec`; specification `SPEC_FULL.md:72–76` and `SPEC_FULL.md:229–235`.
-/

namespace TestSkeleton

/-- Why an operation of the disk fails. -/
inductive DiskProblem where
  | missing
  | alreadyExists
  | notDirectory
  | isDirectory
  | nameTooLong
  | other (number : Nat) (reason : String)
deriving DecidableEq, Repr, Inhabited

namespace DiskProblem

/-- The number of a problem. -/
def number : DiskProblem → Nat
  | missing => 2
  | alreadyExists => 17
  | notDirectory => 20
  | isDirectory => 21
  | nameTooLong => 36
  | other n _ => n

/-- The words for a problem. -/
def reason : DiskProblem → String
  | missing => "No such file or directory"
  | alreadyExists => "File exists"
  | notDirectory => "Not a directory"
  | isDirectory => "Is a directory"
  | nameTooLong => "File name too long"
  | other _ reason => reason

end DiskProblem

/-- What is wrong with a manifest.
`DescriptorError`, `SPEC_FULL.md:233`. -/
inductive ManifestProblem where
  | missing
  | unsupportedFormat (suffix : String)
  | unreadable
  | rootNotMapping
  | classesNotList
  | notList (key : String)
  | classNotMapping
  | classWithoutName
  | methodNotMapping (owner : String)
  | methodWithoutName (owner : String)
  | unknownVisibility (owner method word : String)
  | incompleteParameter (owner : String)
deriving DecidableEq, Repr, Inhabited

/-- The report on a manifest. -/
def ManifestProblem.message : ManifestProblem → String
  | missing => "descriptor path does not exist"
  | unsupportedFormat suffix => "unsupported manifest format '" ++ suffix ++ "'"
  | unreadable => "could not parse manifest"
  | rootNotMapping => "manifest root must be a mapping"
  | classesNotList => "'classes' must be a list"
  | notList key => "'" ++ key ++ "' must be a list"
  | classNotMapping => "each class entry must be a mapping"
  | classWithoutName => "class entry is missing 'name'"
  | methodNotMapping owner => owner ++ ": each method entry must be a mapping"
  | methodWithoutName owner => owner ++ ": method entry is missing 'name'"
  | unknownVisibility owner method word =>
    owner ++ "." ++ method ++ ": unknown visibility '" ++ word ++ "'"
  | incompleteParameter owner => owner ++ ": parameters need both 'name' and 'type'"

/-- What is wrong with the settings of a run. A report has its number in full. A project file or
a command line gives none that is too long to be written; the limit that an environment puts on the
digits of one from another caller is not applied here.
`ConfigurationError`, `SPEC_FULL.md:233`. -/
inductive SettingsProblem where
  | wrongType (key expected found : String)
  | variantsNotInteger
  | negativeVariants (variants : Int)
  | emptyLineSeparator
  | negativeOverride (variants : Int)
  | unknownFramework (name : String) (known : List String)
  | unreadable (path : Path)
deriving DecidableEq, Repr, Inhabited

/-- The report on settings. -/
def SettingsProblem.message : SettingsProblem → String
  | wrongType key expected found =>
    "[tool.stubwright] '" ++ key ++ "' must be of type " ++ expected ++ ", got " ++ found ++ "."
  | variantsNotInteger => "[tool.stubwright] 'variants_per_method' must be an integer."
  | negativeVariants n =>
    "[tool.stubwright] 'variants_per_method' must be >= 0, got " ++ toString n ++ "."
  | emptyLineSeparator => "[tool.stubwright] 'line_separator' must not be empty."
  | negativeOverride n => "variants per method must be >= 0, got " ++ toString n ++ "."
  | unknownFramework name known =>
    "Unknown test framework '" ++ name ++ "'. Known frameworks: " ++ ", ".intercalate known ++ "."
  | unreadable path => path.text ++ ": could not parse settings"

/-- Why a run fails.
`SPEC_FULL.md:231–234`. -/
inductive Failure where
  | batchSizes (bodies targets : Nat)
  | manifest (path : Path) (problem : ManifestProblem)
  | settings (problem : SettingsProblem)
  | disk (problem : DiskProblem) (path : Path)
  | negativeVariants (variants : Int)
  | fault (fault : Fault)
deriving DecidableEq, Repr, Inhabited

namespace Failure

/-- A report with the path that it is about, if there is one. -/
def located (path : Option String) (message : String) : String :=
  match path with
  | some path => path ++ ": " ++ message
  | none => message

/-- The report on a failure. A fault has none. -/
def message : Failure → String
  | batchSizes bodies targets =>
    "Test files list size (" ++ toString targets
      ++ ") is not equal to the size of the list of test strings (" ++ toString bodies ++ ")."
  | manifest path problem => located (some path.text) problem.message
  | settings problem => problem.message
  | disk problem path =>
    "[Errno " ++ toString problem.number ++ "] " ++ problem.reason ++ ": " ++ Text.quoted path.text
  | negativeVariants n => "variants_per_method must be >= 0, got " ++ toString n
  | fault _ => ""

/-- A computation that may meet a fault, as one that may fail. -/
def ofFault {α : Type} (x : Except Fault α) : Except Failure α := x.mapError fault

/-- Reporting a fault keeps results. -/
theorem ofFault_eq_ok {α : Type} {x : Except Fault α} {a : α} :
    ofFault x = .ok a ↔ x = .ok a := by
  cases x with
  | error f => constructor <;> intro h <;> cases h
  | ok a' => constructor <;> intro h <;> cases h <;> rfl

/-- A fault is reported as it is. -/
theorem ofFault_eq_fault {α : Type} {x : Except Fault α} {f : Fault} :
    ofFault x = .error (.fault f) ↔ x = .error f := by
  cases x with
  | error f' => constructor <;> intro h <;> cases h <;> rfl
  | ok a => constructor <;> intro h <;> cases h

/-- Throws the failure of a computation, or goes on with its result. -/
def orThrow {m : Type → Type} [Monad m] [MonadExcept Failure m] {α : Type} :
    Except Failure α → m α
  | .ok a => pure a
  | .error e => throw e

end Failure
end TestSkeleton
