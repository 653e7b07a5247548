import TestSkeleton.Java.Name
import TestSkeleton.Text.Split

/-!
# Classes

What the generator knows about a class: its canonical name, its methods in the order of their
declaration and the parameters of its constructor.

Data model of `stubwright-spec`; specification `SPEC_FULL.md:25–26` and `SPEC_FULL.md:129–140`.
-/

namespace TestSkeleton.Java

/-- Who may call a method.
`Visibility`, `SPEC_FULL.md:129–130`. -/
inductive Visibility where
  | isPublic
  | isProtected
  | isPackage
  | isPrivate
deriving DecidableEq, Repr, Inhabited

namespace Visibility

/-- The word for a visibility. A method without a modifier has package visibility. -/
def word : Visibility → String
  | isPublic => "public"
  | isProtected => "protected"
  | isPackage => "package"
  | isPrivate => "private"

/-- The visibility of a word. -/
def ofWord? : String → Option Visibility
  | "public" => some isPublic
  | "protected" => some isProtected
  | "package" => some isPackage
  | "private" => some isPrivate
  | _ => none

/-- The word of a visibility is read back. -/
@[simp] theorem ofWord?_word (v : Visibility) : ofWord? v.word = some v := by cases v <;> rfl

end Visibility

/-- A parameter of a method or constructor.
`ParameterDescriptor`, `SPEC_FULL.md:131–132`. -/
structure Parameter where
  name : String
  type : String
deriving DecidableEq, Repr, Inhabited

/-- A method as declared.
`MethodDescriptor`, `SPEC_FULL.md:133–135`. -/
structure Method where
  name : String
  visibility : Visibility := .isPublic
  parameters : List Parameter := []
  returnType : String := "void"
  isStatic : Bool := false
deriving DecidableEq, Repr, Inhabited

/-- Whether anyone may call a method. -/
def Method.isPublic (m : Method) : Bool := m.visibility == .isPublic

/-- A class as described by a manifest. `givenName` holds the simple name where it is not the last
segment of the canonical name; it is whatever value the manifest gives.
`ClassDescriptor`, `SPEC_FULL.md:136–140`. -/
structure ClassInfo where
  canonicalName : String
  methods : List Method := []
  constructorParameters : List Parameter := []
  givenName : Value := .null
deriving Repr, Inhabited

namespace ClassInfo

/-- The name without the package: the given one, or else the last dotted segment.
`ClassDescriptor.simple_name`, `SPEC_FULL.md:138–139`. -/
def simpleName (c : ClassInfo) : Value :=
  if c.givenName.isTruthy then c.givenName else .text (Text.afterLast '.' c.canonicalName)

/-- The canonical name without its last segment; nothing for a class of the default package.
`ClassDescriptor.package_name`, `SPEC_FULL.md:139–140`. -/
def packageName (c : ClassInfo) : String := Text.beforeLast '.' c.canonicalName

/-- The public methods in the order of their declaration.
`ClassDescriptor.public_methods`, `SPEC_FULL.md:44`. -/
def publicMethods (c : ClassInfo) : List Method := c.methods.filter Method.isPublic

/-- The name of the field that holds the instance under test: the simple name with its first letter
in lower case.
`derive_fixture_field_name`, `SPEC_FULL.md:42`. -/
def fieldName (c : ClassInfo) : Except Fault Name :=
  (Name.ofValue c.simpleName).map Name.decapitalize

/-- A class of methods without parameters, the public ones first.
`make_class` of `stubwright-test-utils`. -/
def ofMethodNames (canonicalName : String) (publicNames privateNames : List String)
    (constructor : List Parameter) : ClassInfo where
  canonicalName := canonicalName
  methods := publicNames.map (fun n => { name := n })
    ++ privateNames.map (fun n => { name := n, visibility := .isPrivate })
  constructorParameters := constructor

end ClassInfo
end TestSkeleton.Java
