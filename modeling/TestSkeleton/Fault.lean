/-!
# Faults

What happens when an operation meets a value that it does not check for. Nothing handles a fault;
it ends the run.
-/

namespace TestSkeleton

/-- A failure that no part of a run expects. -/
inductive Fault where
  /-- A value of a kind that does not have the operation. -/
  | wrongKind
  /-- A member that a value of this kind does not have. -/
  | missingMember
  /-- A value of the right kind that the operation does not take. -/
  | badValue
  /-- Bytes that are no text. -/
  | undecodable
  /-- A number beyond the range of the operation. -/
  | outOfRange
  /-- A key that is not in a table. -/
  | missingKey
  /-- A position outside a sequence. -/
  | missingIndex
  /-- Collections nested more deeply than a reader or a display follows. -/
  | tooDeep
  /-- A text longer than any memory. -/
  | tooLong
  /-- A text with half of a surrogate pair, which no file can hold. -/
  | unencodable
deriving DecidableEq, Repr, Inhabited

/-- Why a text gives no value: it does not follow its format, or a value in it is impossible. -/
inductive TextProblem where
  | malformed
  | fault (f : Fault)
deriving DecidableEq, Repr, Inhabited

/-- A result that a text has to have to follow its format. -/
def TextProblem.require {α : Type} : Option α → Except TextProblem α
  | some a => .ok a
  | none => .error .malformed

/-- What a text has to have is there. -/
theorem TextProblem.require_eq_ok {α : Type} {x : Option α} {a : α} :
    require x = .ok a ↔ x = some a := by
  cases x <;> simp [require]

namespace Text

/-- Whether a number is half of a surrogate pair, which stands for no character on its own. -/
def isHalf (n : Nat) : Bool := 0xd800 ≤ n && n ≤ 0xdfff

/-- What becomes of half a surrogate pair in a text that is only shown: the replacement
character. -/
def shownHalf : Except Fault Char := .ok '\ufffd'

/-- What becomes of half a surrogate pair in a text that is to be written. -/
def writtenHalf : Except Fault Char := .error .unencodable

/-- The character of a number, where `half` says what becomes of half a surrogate pair. -/
def charOf (half : Except Fault Char) (n : Nat) : Except Fault Char :=
  if isHalf n then half else .ok (Char.ofNat n)

end Text

end TestSkeleton
