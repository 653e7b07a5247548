import TestSkeleton.Number.Binary64

/-!
# Decimal digits of a binary number

The fewest decimal digits that read back as a given number, and the digits of a number rounded to
a fixed count or at a fixed place. Digits stand after the point: `digits` with point place `p`
mean `0.d₁d₂… · 10^p`.
-/

namespace TestSkeleton.Binary64

/-- A positive decimal number: `0.d₁d₂… · 10^point`. -/
structure Decimal where
  digits : List Char
  point : Int
deriving DecidableEq, Repr, Inhabited

-- The least power of ten that lifts `num / den`, a fraction below one, to one or more.
private def liftPower (num den : Nat) : Nat → Nat → Nat
  | 0, j => j
  | fuel + 1, j => if den ≤ num * Nat.pow 10 j then j else liftPower num den fuel (j + 1)

/-- The power of ten at or below a positive fraction. Positive fractions of binary numbers of 64
bits are lifted to one by less than 10^400. -/
def floorLog10 (num den : Nat) : Int :=
  if den ≤ num then (Nat.toDigits 10 (num / den)).length - 1
  else -(liftPower num den 400 1 : Int)

-- The points of the grid of multiples of 10^`power` at or below a fraction and next to it, the
-- fraction and the grid point being multiplied by the same factor.
private def gridFloor (num den : Nat) (power : Int) : Nat :=
  (num * Nat.pow 10 (-power).toNat) / (den * Nat.pow 10 power.toNat)

private def compareGrid (point : Nat) (power : Int) (num den : Nat) : Ordering :=
  compare (point * Nat.pow 10 power.toNat * den) (num * Nat.pow 10 (-power).toNat)

-- What reads back as a number: the fractions between two bounds with a common denominator.
private structure Interval where
  low : Nat
  value : Nat
  high : Nat
  den : Nat
  closed : Bool

-- The fractions that round to `mantissa · 2^exponent`. The gap below a power of two is half as wide
-- as the gap above it, unless it is the least exponent.
private def interval (mantissa : Nat) (exponent : Int) : Interval :=
  let r := ratio 1 (exponent - 2)
  let below := if mantissa = Nat.pow 2 52 ∧ leastExponent < exponent then 1 else 2
  { low := (4 * mantissa - below) * r.1
    value := 4 * mantissa * r.1
    high := (4 * mantissa + 2) * r.1
    den := r.2
    closed := mantissa % 2 == 0 }

private def Interval.has (i : Interval) (point : Nat) (power : Int) : Bool :=
  let lo := compareGrid point power i.low i.den
  let hi := compareGrid point power i.high i.den
  (lo == .gt || (i.closed && lo == .eq)) && (hi == .lt || (i.closed && hi == .eq))

-- The grid point of the interval that is nearest to its value, if there is one; of two points
-- equally near, the even one.
private def Interval.nearest? (i : Interval) (power : Int) : Option Nat :=
  let p := gridFloor i.value i.den power
  match i.has p power, i.has (p + 1) power with
  | true, true =>
    -- Compare the value with the middle between the two points.
    match compare ((2 * p + 1) * Nat.pow 10 power.toNat * i.den)
        (2 * i.value * Nat.pow 10 (-power).toNat) with
    | .lt => some (p + 1)
    | .gt => some p
    | .eq => some (if p % 2 = 0 then p else p + 1)
  | true, false => some p
  | false, true => some (p + 1)
  | false, false => none

-- Tries grids with more and more digits, the first one of `n` digits.
private def searchGrids (i : Interval) (top : Int) : Nat → Nat → Nat × Int
  | 0, n => (gridFloor i.value i.den (top - n + 1), top - n + 1)
  | fuel + 1, n =>
    match i.nearest? (top - n + 1) with
    | some p => (p, top - n + 1)
    | none => searchGrids i top fuel (n + 1)

private def normalize (point : Nat) (power : Int) : Decimal :=
  let ds := Nat.toDigits 10 point
  { digits := (ds.reverse.dropWhile (· == '0')).reverse, point := ds.length + power }

/-- The fewest digits that read back as the number, and of those the nearest to it. Seventeen
digits always suffice. -/
def shortest (mantissa : Nat) (exponent : Int) : Decimal :=
  let i := interval mantissa exponent
  let (p, power) := searchGrids i (floorLog10 i.value i.den) 17 1
  normalize p power

/-- The number as a whole multiple of 10^-`places`, rounded to nearest, halves to even. -/
def atPlaces (mantissa : Nat) (exponent : Int) (places : Nat) : Nat :=
  let r := ratio mantissa exponent
  roundDiv (r.1 * Nat.pow 10 places) r.2

/-- The number rounded to a count of significant digits, at least one; zeros at the end stay. -/
def significant (mantissa : Nat) (exponent : Int) (count : Nat) : Decimal :=
  if mantissa = 0 then ⟨List.replicate count '0', 1⟩ else
  let r := ratio mantissa exponent
  let power := floorLog10 r.1 r.2 - count + 1
  let n := roundDiv (r.1 * Nat.pow 10 (-power).toNat) (r.2 * Nat.pow 10 power.toNat)
  let ds := Nat.toDigits 10 n
  -- Rounding up may carry into one more digit, which is then a one before zeros.
  ⟨ds.take count, ds.length + power⟩

end TestSkeleton.Binary64
