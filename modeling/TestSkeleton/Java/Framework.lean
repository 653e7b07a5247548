import TestSkeleton.Text.Case
import TestSkeleton.Text.Split

/-!
# Test frameworks

The names that a generated class takes from its test framework: two annotations, each imported by
its canonical name.

Framework profiles of `stubwright-lang-java`; specification `SPEC_FULL.md:154–158`.
-/

namespace TestSkeleton.Java

/-- A test framework.
`JUnitFramework`, `SPEC_FULL.md:154–157`. -/
structure Framework where
  name : String
  /-- The canonical name of the annotation of test methods. -/
  testImport : String
  /-- The canonical name of the annotation of the method that sets up the fixture. -/
  setUpImport : String
deriving DecidableEq, Repr, Inhabited

namespace Framework

/-- JUnit 5. -/
def junit5 : Framework where
  name := "junit5"
  testImport := "org.junit.jupiter.api.Test"
  setUpImport := "org.junit.jupiter.api.BeforeEach"

/-- JUnit 4. -/
def junit4 : Framework where
  name := "junit4"
  testImport := "org.junit.Test"
  setUpImport := "org.junit.Before"

/-- The known frameworks, in the order of their names. -/
def known : List Framework := [junit4, junit5]

/-- The framework of a name, in any case of letters.
`get_framework`, `SPEC_FULL.md:157–158`. -/
def ofName? (name : String) : Option Framework :=
  known.find? fun f => f.name == Text.lower name

/-- The annotation of a test method. -/
def testAnnotation (f : Framework) : String := "@" ++ Text.afterLast '.' f.testImport

/-- The annotation of the method that sets up the fixture. -/
def setUpAnnotation (f : Framework) : String := "@" ++ Text.afterLast '.' f.setUpImport

/-- What a test class imports. -/
def imports (f : Framework) : List String := [f.testImport, f.setUpImport]

end Framework
end TestSkeleton.Java
