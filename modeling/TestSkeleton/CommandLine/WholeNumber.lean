import TestSkeleton.Number.Numeral
import TestSkeleton.Text.Blank

/-!
# Whole numbers on the command line

A whole number in ASCII digits. It may have white space around it, a plus sign, zeros and
underscores in front, underscores between its digits, and a fraction of zeros.
-/

namespace TestSkeleton.CommandLine.WholeNumber

open Text

/-- Whether a character is white space. The information separators are not. -/
def isSpace (c : Char) : Bool := isBlank c && !(0x1c ≤ c.toNat && c.toNat ≤ 0x1f)

/-- Whether a character is an ASCII digit. -/
def isDigit (c : Char) : Bool := (baseDigit? 10 c).isSome

/-- Characters without white space at either end. -/
def trimmed (cs : List Char) : List Char :=
  ((cs.dropWhile isSpace).reverse.dropWhile isSpace).reverse

/-- Characters without a plus sign in front, after which no minus sign may follow. -/
def afterPlus? : List Char → Option (List Char)
  | '+' :: '-' :: _ => none
  | '+' :: rest => some rest
  | cs => some cs

-- Whether a number may begin with a character: a minus sign or a digit other than zero.
private def isLead (c : Char) : Bool := c == '-' || (isDigit c && c != '0')

-- What follows zeros and underscores, the last of which was `last`. A fraction keeps the zero
-- before its point.
private def afterZeros (last : Char) : List Char → Option (List Char)
  | [] => some [last]
  | c :: rest =>
    if isLead c then some (c :: rest)
    else if c = '.' then some (last :: c :: rest)
    else if c = '0' ∨ c = '_' then afterZeros c rest
    else none

/-- Characters without the zeros that they begin with. -/
def withoutZeros? : List Char → Option (List Char)
  | [] => none
  | c :: rest =>
    if isLead c then some (c :: rest) else if c = '0' then afterZeros c rest else none

/-- Characters without a fraction of zeros, of which there is at least one. -/
def withoutFraction (cs : List Char) : List Char :=
  let whole := cs.takeWhile (· != '.')
  match cs.drop whole.length with
  | _ :: zeros => if !zeros.isEmpty && zeros.all (· == '0') then whole else cs
  | [] => cs

/-- Characters without the underscores between them. One at either end, or two in a row, are
left. -/
def withoutUnderscores (cs : List Char) : List Char :=
  let parts := cs.splitOn '_'
  if parts.any List.isEmpty then cs else parts.flatten

/-- A minus sign or nothing, and digits that begin with a zero only if there is no other. -/
def strict? (cs : List Char) : Option Int :=
  let (negative, digits) := match cs with
    | '-' :: rest => (true, rest)
    | _ => (false, cs)
  if digits.isEmpty || !digits.all isDigit || (digits.head? == some '0' && digits.length != 1) then
    none
  else Numeral.ofDecimalDigits? negative digits

/-- The whole number that a text spells. -/
def read? (s : String) : Option Int :=
  match strict? s.toList with
  | some i => some i
  | none => do
    let cs ← withoutZeros? (← afterPlus? (trimmed s.toList))
    strict? (withoutUnderscores (withoutFraction cs))

end TestSkeleton.CommandLine.WholeNumber
