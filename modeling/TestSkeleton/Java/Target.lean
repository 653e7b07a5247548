import TestSkeleton.Java.Class
import TestSkeleton.Path

/-!
# Targets

Where the test of a class is written: below a base directory and an output root, in the directories
of the package.

Path resolver of `stubwright-application`; specification `SPEC_FULL.md:48–49`.
-/

namespace TestSkeleton.Java

/-- Where the tests of a run go. -/
structure Placement where
  base : String
  outputRoot : String
  extension : String := ".java"
  separator : String := "/"
deriving DecidableEq, Repr, Inhabited

namespace Placement

/-- The place of a test below the output root. -/
def relativeText (l : Placement) (canonicalName : String) : String :=
  Text.replaceChar '.' l.separator canonicalName ++ "Test" ++ l.extension

/-- The file of the test of a class. The output root always follows the base, an absolute one
too.
`OutputPathResolver.resolve`, `SPEC_FULL.md:49`. -/
def target (l : Placement) (c : ClassInfo) : Path :=
  Path.ofString
    (l.base ++ l.separator ++ l.outputRoot ++ l.separator ++ l.relativeText c.canonicalName)

end Placement
end TestSkeleton.Java
