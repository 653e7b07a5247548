import TestSkeleton.Document.Display
import TestSkeleton.Fault
import TestSkeleton.Text.Case

/-!
# Names

The name of a class as it stands in source text, and the name of the field that holds its instance.
A manifest may give a name as text or as a binary scalar; other values have no first letter.

Specification: `SPEC_FULL.md:42`.
-/

namespace TestSkeleton.Java

/-- A name whose first letter can change: text, or the bytes of a binary scalar. -/
inductive Name where
  | text (s : String)
  | bytes (bs : List UInt8)
deriving DecidableEq, Repr

namespace Name

instance : Coe String Name := ⟨text⟩

/-- The name that a value stands for. -/
def ofValue (v : Value) : Except Fault Name :=
  match v.opened with
  | .text s => .ok (text s)
  | .bytes bs => .ok (bytes bs)
  | .list _ | .tuple _ => .error .missingMember
  | _ => .error .wrongKind

/-- The name in source text. -/
def display : Name → String
  | text s => s
  | bytes bs => Text.quotedBytes bs

private def mapHead (f : UInt8 → UInt8) : List UInt8 → List UInt8
  | [] => []
  | b :: bs => f b :: bs

/-- The name with its first letter in upper case. -/
def capitalize : Name → Name
  | text s => text (Text.capitalize s)
  | bytes bs => bytes (mapHead (fun b => if 97 ≤ b && b ≤ 122 then b - 32 else b) bs)

/-- The name with its first letter in lower case. -/
def decapitalize : Name → Name
  | text s => text (Text.decapitalize s)
  | bytes bs => bytes (mapHead (fun b => if 65 ≤ b && b ≤ 90 then b + 32 else b) bs)

/-- A name given as text is displayed as that text. -/
@[simp] theorem display_text (s : String) : display (.text s) = s := rfl

/-- A name given as text is capitalized as text. -/
@[simp] theorem capitalize_text (s : String) :
    capitalize (.text s) = .text (Text.capitalize s) := rfl

/-- A name given as text is decapitalized as text. -/
@[simp] theorem decapitalize_text (s : String) :
    decapitalize (.text s) = .text (Text.decapitalize s) := rfl

end Name
end TestSkeleton.Java
