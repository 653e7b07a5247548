import TestSkeleton.Java.Framework
import TestSkeleton.Java.Sample

/-!
# Members of a test class

The method that sets up the fixture and the test methods. Every member is a run of lines, each with
its line end.

Default generators of `stubwright-lang-java`; specification `SPEC_FULL.md:159–167`.
-/

namespace TestSkeleton.Java

/-- How members are written. -/
structure MemberStyle where
  framework : Framework := .junit5
  lineEnd : String := "\n"
  indent : String := "\t"
deriving DecidableEq, Repr, Inhabited

/-- Opens a body. -/
def openBrace : String := "\x7b"

/-- Closes a body. -/
def closeBrace : String := "\x7d"

/-- Lines with a line end between them and one after the last. -/
def joinLines (lineEnd : String) (lines : List String) : String :=
  lineEnd.intercalate lines ++ lineEnd

/-- The lines of a member: annotation, head, one statement, closing brace. -/
def memberLines (indent annotation head statement : String) : List String :=
  [indent ++ annotation,
   indent ++ head ++ "() throws Exception " ++ openBrace,
   indent ++ indent ++ statement,
   indent ++ closeBrace]

/-- The statement that makes the instance under test, with the first sample of each parameter. -/
def setUpStatement (c : ClassInfo) (field : Name) : String :=
  field.display ++ " = new " ++ c.simpleName.display ++ "(" ++ arguments c.constructorParameters 0
    ++ ");"

/-- The method that sets up the fixture.
`JavaFixtureGenerator.generate`, `SPEC_FULL.md:159–161`. -/
def setUp (style : MemberStyle) (c : ClassInfo) (field : Name) : String :=
  joinLines style.lineEnd
    (memberLines style.indent style.framework.setUpAnnotation "public void setUp"
      (setUpStatement c field))

namespace Method

/-- The name of the tests of a method, without the number of the variant. The types of the
parameters keep overloads apart. -/
def testStem (m : Method) : String :=
  "test" ++ Text.capitalize m.name
    ++ String.join (m.parameters.map fun p => TypeText.token p.type)

/-- The name of the test of a method for a variant. Variants are counted up from zero, so none is
reached that an environment would not write in full, and any number is written so here.
`JavaStubGenerator.test_name`, `SPEC_FULL.md:162–164`. -/
def testName (m : Method) (variant : Int) : String := m.testStem ++ toString variant

/-- What a method is called on: the field, or the class for a static method.
`JavaStubGenerator.generate`, `SPEC_FULL.md:164–165`. -/
def receiver (m : Method) (field : Name) : Name :=
  if m.isStatic then field.capitalize else field

/-- The call of a method with the samples of a variant. -/
def call (m : Method) (field : Name) (variant : Int) : String :=
  (m.receiver field).display ++ "." ++ m.name ++ "(" ++ arguments m.parameters variant ++ ");"

/-- The statement of a test: the call, its result kept if there is one.
`JavaStubGenerator.generate`, `SPEC_FULL.md:165–166`. -/
def testStatement (m : Method) (field : Name) (variant : Int) : String :=
  if m.returnType = "void" then m.call field variant
  else m.returnType ++ " result = " ++ m.call field variant

/-- The test of a method for a variant.
`JavaStubGenerator.generate`, `SPEC_FULL.md:162–167`. -/
def test (style : MemberStyle) (m : Method) (field : Name) (variant : Int) : String :=
  joinLines style.lineEnd
    (memberLines style.indent style.framework.testAnnotation ("public void " ++ m.testName variant)
      (m.testStatement field variant))

end Method
end TestSkeleton.Java
