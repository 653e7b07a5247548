/-!
# The order of texts

Texts are ordered by the numbers of their characters, and lists of texts by their first difference.
-/

namespace TestSkeleton.Text

/-- The order of two characters. -/
def compareChars (c d : Char) : Ordering := compare c.toNat d.toNat

/-- The order of two texts. -/
def compareTexts (s t : String) : Ordering := List.compareLex compareChars s.toList t.toList

/-- The order of two lists of texts. -/
def compareTextLists (ss ts : List String) : Ordering := List.compareLex compareTexts ss ts

end TestSkeleton.Text
