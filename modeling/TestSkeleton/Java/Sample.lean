import TestSkeleton.Java.Class
import TestSkeleton.Java.TypeText

/-!
# Sample values

Literals of a type, for the arguments of generated calls. Each type has a pool of samples, and the
number of a variant goes around in the pool. A reference type without samples has only `null`.

Value catalog of `stubwright-lang-java`; specification `SPEC_FULL.md:168–172`.
-/

namespace TestSkeleton.Java

open Text

/-- The primitive types. -/
inductive Primitive where
  | byte | short | int | long | float | double | boolean | char
deriving DecidableEq, Repr

namespace Primitive

/-- Every primitive type. -/
def all : List Primitive := [byte, short, int, long, float, double, boolean, char]

/-- The keyword of a primitive type. -/
def keyword : Primitive → String
  | byte => "byte"
  | short => "short"
  | int => "int"
  | long => "long"
  | float => "float"
  | double => "double"
  | boolean => "boolean"
  | char => "char"

/-- The class that wraps a primitive type. -/
def wrapper : Primitive → String
  | byte => "Byte"
  | short => "Short"
  | int => "Integer"
  | long => "Long"
  | float => "Float"
  | double => "Double"
  | boolean => "Boolean"
  | char => "Character"

/-- The primitive type of a keyword. -/
def ofKeyword? (type : String) : Option Primitive := all.find? (·.keyword == type)

/-- The primitive type that a class wraps. -/
def ofWrapper? (type : String) : Option Primitive := all.find? (·.wrapper == type)

/-- The samples of a primitive type. -/
def samples : Primitive → List String
  | byte => ["(byte) 0", "(byte) 1", "Byte.MAX_VALUE", "Byte.MIN_VALUE"]
  | short => ["(short) 0", "(short) 1", "Short.MAX_VALUE", "Short.MIN_VALUE"]
  | int => ["0", "1", "-1", "Integer.MAX_VALUE", "Integer.MIN_VALUE"]
  | long => ["0L", "1L", "-1L", "Long.MAX_VALUE", "Long.MIN_VALUE"]
  | float => ["0.0f", "1.0f", "-1.0f", "Float.NaN"]
  | double => ["0.0", "1.0", "-1.0", "Double.NaN"]
  | boolean => ["false", "true"]
  | char => ["'a'", "'0'", "' '"]

/-- Every primitive type has a sample. -/
theorem samples_ne_nil (p : Primitive) : p.samples ≠ [] := by cases p <;> simp [samples]

end Primitive

/-- Expressions for instances of the well-known reference types, by erased name. -/
def instances : List (String × List String) :=
  [("String", ["\"\"", "\"test\""]),
   ("CharSequence", ["\"\"", "\"test\""]),
   ("Object", ["new Object()"]),
   ("List", ["new java.util.ArrayList<>()"]),
   ("Collection", ["new java.util.ArrayList<>()"]),
   ("Iterable", ["new java.util.ArrayList<>()"]),
   ("Set", ["new java.util.HashSet<>()"]),
   ("Map", ["new java.util.HashMap<>()"]),
   ("Optional", ["java.util.Optional.empty()"])]

/-- The text without a beginning, if it has it. -/
def dropStart (start s : String) : String := (stripStart? start s).getD s

/-- A type text without blanks at its ends and without the packages that need no import.
`_normalize` of the value catalog. -/
def shortType (type : String) : String :=
  dropStart "java.util." (dropStart "java.lang." (trim type))

/-- The samples of an array: only the first dimension takes a size.
`SPEC_FULL.md:171–172`. -/
def arraySamples (shape : TypeText.ArrayShape) : List String :=
  ["new " ++ TypeText.erase shape.element ++ "[0]"
    ++ String.join (List.replicate (shape.dims - 1) "[]"), "null"]

/-- The samples of a type that is no array. -/
def plainSamples (type : String) : List String :=
  match Primitive.ofKeyword? type, Primitive.ofWrapper? type with
  | some p, _ => p.samples
  | none, some p => p.samples ++ ["null"]
  | none, none => (instances.lookup (TypeText.erase type)).getD [] ++ ["null"]

/-- A type text with the dots of variable arguments written as brackets. -/
def bracketDots (type : String) : String :=
  match stripEnd? "..." type with
  | some base => base ++ "[]"
  | none => type

/-- The samples of a type text that has neither blanks at its ends nor dots. -/
def trimmedSamples (type : String) : List String :=
  if (stripEnd? "[]" type).isSome then arraySamples (TypeText.arrayShape type)
  else plainSamples type

/-- The pool of samples of a type.
`_samples_for`, `SPEC_FULL.md:168–172`. -/
def samplePool (type : String) : List String := trimmedSamples (bracketDots (shortType type))

/-- Every type that is no array has a sample. -/
theorem plainSamples_ne_nil (type : String) : plainSamples type ≠ [] := by
  unfold plainSamples
  split
  · exact Primitive.samples_ne_nil _
  · exact List.append_ne_nil_of_right_ne_nil _ (List.cons_ne_nil _ _)
  · exact List.append_ne_nil_of_right_ne_nil _ (List.cons_ne_nil _ _)

/-- Every type has a sample, so going around in a pool is defined. -/
theorem samplePool_ne_nil (type : String) : samplePool type ≠ [] := by
  unfold samplePool trimmedSamples
  split
  · exact List.cons_ne_nil _ _
  · exact plainSamples_ne_nil _

/-- A position in a nonempty list, counted around its end and, for negative numbers, its start. -/
def cycle (xs : List String) (h : xs ≠ []) (i : Int) : String :=
  xs.get ⟨(i % xs.length).toNat, by
    have : 0 < xs.length := List.length_pos_iff.mpr h
    have := Int.emod_lt_of_pos i (b := xs.length) (by omega)
    have := Int.emod_nonneg i (b := xs.length) (by omega)
    omega⟩

/-- The sample of a type for a variant.
`sample_value`, `SPEC_FULL.md:170–171`. -/
def sample (type : String) (variant : Int) : String :=
  cycle (samplePool type) (samplePool_ne_nil type) variant

/-- The samples of parameters, as the arguments of a call. -/
def arguments (parameters : List Parameter) (variant : Int) : String :=
  ", ".intercalate (parameters.map fun p => sample p.type variant)

end TestSkeleton.Java
