import TestSkeleton.Number.Shortest

/-!
# Written forms of numbers

How decimal digits are laid out: positional notation with a point, or a mantissa and an exponent.
A layout record holds the choices of the usual display of a number.
-/

namespace TestSkeleton

/-- The choices made in writing a binary number with its fewest digits. -/
structure FloatLayout where
  /-- The smallest point place that is written positionally. -/
  leastPoint : Int
  /-- The greatest point place that is written positionally. -/
  greatestPoint : Int
  /-- What stands after the digits of a whole number. -/
  wholeEnd : String
  /-- The least number of exponent digits; an exponent always has a sign. -/
  exponentWidth : Nat
deriving Repr

namespace FloatLayout

/-- Numbers from 0.0001 up to 10^16 are positional, whole ones end in `.0`, and an exponent has a
sign and two digits or more. -/
def usual : FloatLayout := ⟨-3, 16, ".0", 2⟩

/-- An exponent with its sign, filled with zeros up to a width. -/
def exponentText (width : Nat) (e : Int) : List Char :=
  let ds := Nat.toDigits 10 e.natAbs
  (if e < 0 then '-' else '+') :: (List.replicate (width - ds.length) '0' ++ ds)

/-- Digits with a point at a place, which may lie before or after them. -/
def positional (digits : List Char) (point : Int) (wholeEnd : List Char) : List Char :=
  if point ≤ 0 then '0' :: '.' :: (List.replicate (-point).toNat '0' ++ digits)
  else
    let p := point.toNat
    if digits.length ≤ p then
      digits ++ List.replicate (p - digits.length) '0' ++ wholeEnd
    else digits.take p ++ '.' :: digits.drop p

/-- One digit, a point and the other digits if there are any, and the exponent. -/
def scientific (digits : List Char) (point : Int) (mark : Char) (width : Nat) : List Char :=
  digits.take 1 ++ (if digits.length ≤ 1 then [] else '.' :: digits.drop 1)
    ++ mark :: exponentText width (point - 1)

/-- A positive decimal number in a layout. -/
def decimal (l : FloatLayout) (d : Binary64.Decimal) : List Char :=
  if l.leastPoint ≤ d.point ∧ d.point ≤ l.greatestPoint then
    positional d.digits d.point l.wholeEnd.toList
  else scientific d.digits d.point 'e' l.exponentWidth

/-- A number in a layout. A zero keeps its sign. -/
def write (l : FloatLayout) : Binary64 → String
  | .nan => "nan"
  | .infinite n => if n then "-inf" else "inf"
  | .finite n m e =>
    let body := if m = 0 then '0' :: l.wholeEnd.toList else l.decimal (Binary64.shortest m e)
    String.ofList (if n then '-' :: body else body)

end FloatLayout

/-- The usual written form of a number. -/
def Binary64.display (x : Binary64) : String := FloatLayout.usual.write x

end TestSkeleton
