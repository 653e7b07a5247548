import TestSkeleton.Document.Display
import TestSkeleton.Failure

/-!
# Messages

A message names a template by its key and carries the arguments for it. Keys are dotted names.

Semantic pointers of `stubwright-needle`; specification `SPEC_FULL.md:219–221`.
-/

namespace TestSkeleton

/-- How urgent a message is.
`SPEC_FULL.md:220`. -/
inductive Level where
  | debug
  | info
  | success
  | warning
  | error
deriving DecidableEq, Repr, Inhabited

/-- The word for a level. -/
def Level.word : Level → String
  | debug => "debug"
  | info => "info"
  | success => "success"
  | warning => "warning"
  | error => "error"

/-- The dotted name of a template.
`SemanticPointer`, `SPEC_FULL.md:220–221`. -/
structure Key where
  path : String := ""
deriving DecidableEq, Repr, Inhabited

namespace Key

/-- The key one step below another. -/
def child (k : Key) (name : String) : Key :=
  ⟨if k.path = "" then name else k.path ++ "." ++ name⟩

/-- How a key is shown as an object. -/
def quoted (k : Key) : String := "<SemanticPointer: '" ++ k.path ++ "'>"

/-- Whether a value, as text, is a key. -/
def matchesValue (k : Key) (v : Value) : Bool := v.display == k.path

end Key

/-- A kind of arguments: its name, and the module that it belongs to unless it is a common one. -/
structure Kind where
  name : String
  home : Option String := none
deriving DecidableEq, Repr, Inhabited

namespace Kind

/-- The module of the common kinds. -/
def commonHome : String := "builtins"

/-- A common kind. -/
def common (name : String) : Kind := { name }

/-- A kind of failures that manifests, settings and batches have of their own. -/
def own (name : String) : Kind := { name, home := some "stubwright.spec.errors" }

/-- The kind of a fault. -/
def ofFault : Fault → Kind
  | .wrongKind => common "TypeError"
  | .missingMember => common "AttributeError"
  | .badValue => common "ValueError"
  | .undecodable => common "UnicodeDecodeError"
  | .outOfRange => common "OverflowError"
  | .missingKey => common "KeyError"
  | .missingIndex => common "IndexError"
  | .tooDeep => common "RecursionError"
  | .tooLong => common "MemoryError"
  | .unencodable => common "UnicodeEncodeError"

/-- The kind of a failure. -/
def ofFailure : Failure → Kind
  | .batchSizes _ _ => own "BatchSizeMismatchError"
  | .manifest _ _ => own "DescriptorError"
  | .settings _ => own "ConfigurationError"
  | .disk .missing _ => common "FileNotFoundError"
  | .disk .alreadyExists _ => common "FileExistsError"
  | .disk .notDirectory _ => common "NotADirectoryError"
  | .disk .isDirectory _ => common "IsADirectoryError"
  | .disk .nameTooLong _ | .disk (.other _ _) _ => common "OSError"
  | .negativeVariants _ => common "ValueError"
  | .fault f => ofFault f

/-- The kind of a value. -/
def ofValue (v : Value) : Kind := common v.kindName

/-- The kind of a path. -/
def path : Kind := { name := "PosixPath", home := some "pathlib" }

/-- The kind of the paths above a path. -/
def ancestors : Kind := { name := "_PathParents", home := some "pathlib" }

/-- How a kind is shown. -/
def display (k : Kind) : String :=
  "<class '" ++ (k.home.map (· ++ ".")).getD "" ++ k.name ++ "'>"

end Kind

/-- What a message can carry, and what a template can step to from there. -/
inductive Argument where
  | value (v : Value)
  | path (p : Path)
  /-- The paths above a path. -/
  | ancestors (p : Path)
  | failure (f : Failure)
  | kind (k : Kind)
deriving Repr, Inhabited

namespace Argument

/-- The text of an argument. -/
def display : Argument → String
  | value v => v.display
  | path p => p.text
  | ancestors _ => "<" ++ Kind.path.name ++ ".parents>"
  | failure f => f.message
  | kind k => k.display

/-- Whether an argument has a text. A whole number with too many digits has none, nor has a
collection with one. -/
def hasText : Argument → Bool
  | value v => v.fault? != some .badValue
  | _ => true

/-- A text has a text. -/
@[simp] theorem hasText_text (s : String) : hasText (.value (.text s)) = true := rfl

/-- A whole number has a text unless it has too many digits. -/
@[simp] theorem hasText_int (i : Int) : hasText (.value (.int i)) = !Numeral.isLong i := by
  rw [hasText, Value.fault?, Value.greatestDepth, Value.faultWithin?]
  cases Numeral.isLong i <;> rfl

/-- The kind of an argument. Kinds are a kind too. -/
def kindOf : Argument → Kind
  | value v => .ofValue v
  | path _ => .path
  | ancestors _ => .ancestors
  | failure f => .ofFailure f
  | kind _ => .common "type"

/-- The parts that a failure is made from: its message, or the number and the words of a problem of
the disk. -/
def failureParts : Failure → List Value
  | .disk problem _ => [.int problem.number, .text problem.reason]
  | f => [.text f.message]

/-- How an argument is shown as an object. -/
def quoted : Argument → String
  | value v => v.quoted
  | path p => Kind.path.name ++ "(" ++ Text.quoted p.text ++ ")"
  | failure f =>
    (Kind.ofFailure f).name ++ "(" ++ ", ".intercalate ((failureParts f).map Value.quoted) ++ ")"
  | a => a.display

end Argument

/-- What is told to the user: a level, the key of a template and its arguments. -/
structure Message where
  level : Level
  key : Key
  arguments : List (String × Argument) := []
deriving Repr, Inhabited

end TestSkeleton
