import TestSkeleton.Java.Member

/-!
# Test classes

The text of a test class, put together from fragments: header, declaration, field, set-up method,
test methods and the closing brace. The generators of the members are functions, so that the order
of the fragments does not depend on what they write.

Assemblers of `stubwright-application`; specification `SPEC_FULL.md:36–46`.
-/

namespace TestSkeleton.Java

/-- A text as the list of its fragments, in order.
`FileBodyBuilder`, `SPEC_FULL.md:28` and `SPEC_FULL.md:92`. -/
structure Body where
  fragments : List String := []
deriving DecidableEq, Repr, Inhabited

namespace Body

/-- One more fragment. -/
def append (b : Body) (fragment : String) : Body := ⟨b.fragments ++ [fragment]⟩

/-- Several more fragments. -/
def extend (b : Body) (fragments : List String) : Body := ⟨b.fragments ++ fragments⟩

/-- The whole text. -/
def text (b : Body) : String := String.join b.fragments

/-- Appending a text adds one fragment. -/
@[simp] theorem fragments_append (b : Body) (s : String) :
    (b.append s).fragments = b.fragments ++ [s] := rfl

/-- Extending by texts adds a fragment for each. -/
@[simp] theorem fragments_extend (b : Body) (ss : List String) :
    (b.extend ss).fragments = b.fragments ++ ss := rfl

/-- Appending a text puts it at the end of the body. -/
@[simp] theorem text_append (b : Body) (s : String) : (b.append s).text = b.text ++ s := by
  simp [text]

/-- Extending by texts puts them at the end of the body, one after the other. -/
@[simp] theorem text_extend (b : Body) (ss : List String) :
    (b.extend ss).text = b.text ++ String.join ss := by
  simp [text]

end Body

/-- The package statement, which a class of the default package does not have. -/
def packageStatement (lineEnd packageName : String) : String :=
  if packageName = "" then "" else "package " ++ packageName ++ ";" ++ lineEnd ++ lineEnd

/-- An import statement. -/
def importStatement (lineEnd name : String) : String := "import " ++ name ++ ";" ++ lineEnd

/-- What stands before the class: package, imports and an empty line.
`HeaderAssembler.assemble`, `SPEC_FULL.md:37`. -/
def header (imports : List String) (lineEnd : String) (c : ClassInfo) : String :=
  packageStatement lineEnd c.packageName ++ String.join (imports.map (importStatement lineEnd))
    ++ lineEnd

/-- How the classes of a run are written. -/
structure Outline where
  imports : List String
  lineEnd : String
  setUp : ClassInfo → Name → String
  test : Method → Name → Nat → String

namespace Outline

/-- The outline for a framework, with tabs as indentation. -/
def ofFramework (framework : Framework) (lineEnd : String) : Outline where
  imports := framework.imports
  lineEnd := lineEnd
  setUp := Java.setUp { framework, lineEnd }
  test m field variant := m.test { framework, lineEnd } field variant

/-- The declaration of the test class. -/
def declaration (o : Outline) (c : ClassInfo) : String :=
  "public class " ++ c.simpleName.display ++ "Test " ++ openBrace ++ o.lineEnd

/-- The declaration of the field that holds the instance under test. -/
def field (o : Outline) (c : ClassInfo) (name : Name) : String :=
  "\tprivate " ++ c.simpleName.display ++ " " ++ name.display ++ ";" ++ o.lineEnd

/-- The tests of a class: for each public method in order, its variants.
`ClassTestAssembler.collect_stubs`, `SPEC_FULL.md:44`. -/
def tests (o : Outline) (c : ClassInfo) (field : Name) (variants : Nat) : List String :=
  c.publicMethods.flatMap fun m => (List.range variants).map fun v => o.test m field v

/-- The fragments of a test class whose field has the given name. -/
def bodyWith (o : Outline) (c : ClassInfo) (field : Name) (variants : Nat) : Body where
  fragments :=
    [header o.imports o.lineEnd c,
     o.declaration c,
     o.field c field,
     o.lineEnd,
     o.setUp c field,
     o.lineEnd,
     o.lineEnd.intercalate (o.tests c field variants),
     closeBrace ++ o.lineEnd]

/-- The fragments of a test class.
`ClassTestAssembler.build`, `SPEC_FULL.md:40–46`. -/
def body (o : Outline) (c : ClassInfo) (variants : Nat) : Except Fault Body :=
  c.fieldName.map fun field => o.bodyWith c field variants

end Outline
end TestSkeleton.Java
