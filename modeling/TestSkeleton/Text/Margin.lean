import TestSkeleton.Text.Split

/-!
# Margins

The blanks that all lines of a text start with. Lines of nothing but spaces and tabs do not count;
they lose what they hold.
-/

namespace TestSkeleton.Text

/-- Whether a character may be part of a margin. -/
def isIndent (c : Char) : Bool := c == ' ' || c == '\t'

/-- The common beginning of two lists. -/
def commonStart : List Char → List Char → List Char
  | x :: xs, y :: ys => if x = y then x :: commonStart xs ys else []
  | _, _ => []

/-- The common beginning of all lists. -/
def commonMargin : List (List Char) → List Char
  | [] => []
  | m :: ms => ms.foldl commonStart m

/-- A text whose lines have lost the margin common to them. -/
def dedent (s : String) : String :=
  let lines := (s.toList.splitOn '\n').map fun l => if l.all isIndent then [] else l
  let margin := commonMargin
    ((lines.filter fun l => !l.isEmpty).map fun l => l.takeWhile isIndent)
  String.ofList (['\n'].intercalate (lines.map fun l => l.drop margin.length))

end TestSkeleton.Text
