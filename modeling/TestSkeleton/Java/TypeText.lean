import TestSkeleton.Text.Blank
import TestSkeleton.Text.Case
import TestSkeleton.Text.Split

/-!
# Type texts

The parts of the text of a type: the name before its generic arguments, and the element type and
number of dimensions of an array. Variable arguments count as one dimension.

Type texts of `stubwright-lang-java`; specification `SPEC_FULL.md:162–164`.
-/

namespace TestSkeleton.Java.TypeText

open Text

/-- A type text without its generic arguments.
`erase_generics` of the value catalog. -/
def erase (type : String) : String := String.ofList (type.toList.takeWhile (· ≠ '<'))

/-- Erasure keeps what is in front of the first angle bracket. -/
@[simp] theorem toList_erase (type : String) :
    (erase type).toList = type.toList.takeWhile (· ≠ '<') := by simp [erase]

/-- Takes pairs of brackets from the end of a text, given in reverse, with the blanks before each of
them; counts the pairs. -/
def takeBrackets : List Char → List Char × Nat
  | ']' :: '[' :: rest =>
    let inner := takeBrackets (dropBlanks rest)
    (inner.1, inner.2 + 1)
  | cs => (cs, 0)
termination_by cs => cs.length
decreasing_by
  have := (List.dropWhile_sublist isBlank (l := rest)).length_le
  simp only [dropBlanks, List.length_cons]
  omega

/-- The element type of an array and the number of its dimensions. -/
structure ArrayShape where
  element : String
  dims : Nat
deriving DecidableEq, Repr

/-- Splits `int[][]` into `int` and two dimensions. Dots for variable arguments are one dimension,
taken before any brackets.
`split_array_dims` of the value catalog. -/
def arrayShape (type : String) : ArrayShape :=
  let trimmed := trim type
  let (base, dots) := match stripEnd? "..." trimmed with
    | some base => (base, 1)
    | none => (trimmed, 0)
  let (element, brackets) := takeBrackets base.toList.reverse
  { element := String.ofList element.reverse, dims := dots + brackets }

/-- A type as a part of a name: `java.util.List<String>` gives `List`, `int[]` gives `IntArray`.
`_type_token` of the stub generator, `SPEC_FULL.md:163–164`. -/
def token (type : String) : String :=
  let shape := arrayShape type
  capitalize (afterLast '.' (trim (erase shape.element)))
    ++ String.join (List.replicate shape.dims "Array")

end TestSkeleton.Java.TypeText
