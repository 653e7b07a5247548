/-!
# Binary floating-point numbers of 64 bits

A finite number is a sign, a mantissa below 2^53 and an exponent of at least -1074; it stands for
`± mantissa · 2^exponent`. Numbers with a smaller mantissa than 2^52 have the least exponent, so
that each number has one form. Rounding goes to the nearest number, and from halfway between two
numbers to the one with the even mantissa.
-/

namespace TestSkeleton

/-- A binary floating-point number of 64 bits. -/
inductive Binary64 where
  | finite (negative : Bool) (mantissa : Nat) (exponent : Int)
  | infinite (negative : Bool)
  | nan
deriving DecidableEq, Repr, Inhabited

namespace Binary64

/-- The quotient of two numbers, rounded to the nearest whole number, from halfway to an even
one. -/
def roundDiv (num den : Nat) : Nat :=
  let q := num / den
  let twice := 2 * (num % den)
  if twice < den then q
  else if den < twice then q + 1
  else if q % 2 = 0 then q else q + 1

/-- The exponent below which no number reaches. -/
def leastExponent : Int := -1074

/-- The exponent of the largest finite numbers. -/
def greatestExponent : Int := 971

/-- A zero with a sign. -/
def zero (negative : Bool) : Binary64 := .finite negative 0 leastExponent

/-- The number nearest to `num / den`, with a sign; beyond the largest one it is infinite. -/
def ofRatio (negative : Bool) (num den : Nat) : Binary64 :=
  if num = 0 then zero negative else
  let l : Int := (Nat.log2 num : Int) - Nat.log2 den
  -- The power of two at or below the quotient is 2^l or 2^(l-1).
  let top := if num * Nat.pow 2 (-l).toNat < den * Nat.pow 2 l.toNat then l - 1 else l
  let e := max (top - 52) leastExponent
  let m := roundDiv (num * Nat.pow 2 (-e).toNat) (den * Nat.pow 2 e.toNat)
  let (m, e) := if m = Nat.pow 2 53 then (Nat.pow 2 52, e + 1) else (m, e)
  if greatestExponent < e then .infinite negative else .finite negative m e

/-- The number nearest to `digits · 10^power`, with a sign. Powers far outside the range decide the
result without being computed. -/
def ofDecimal (negative : Bool) (digits : Nat) (power : Int) : Binary64 :=
  let length : Int := (Nat.toDigits 10 digits).length
  if digits = 0 then zero negative
  else if 400 < length + power then .infinite negative
  else if length + power < -400 then zero negative
  else ofRatio negative (digits * Nat.pow 10 power.toNat) (Nat.pow 10 (-power).toNat)

/-- The number nearest to a whole number. -/
def ofInt (i : Int) : Binary64 := ofRatio (decide (i < 0)) i.natAbs 1

/-- Whether a number is a zero of either sign. -/
def isZero : Binary64 → Bool
  | .finite _ m _ => m == 0
  | _ => false

/-- The number with the other sign. -/
def neg : Binary64 → Binary64
  | .finite n m e => .finite (!n) m e
  | .infinite n => .infinite (!n)
  | .nan => .nan

/-- The magnitude of a finite number as a fraction. -/
def ratio (mantissa : Nat) (exponent : Int) : Nat × Nat :=
  (mantissa * Nat.pow 2 exponent.toNat, Nat.pow 2 (-exponent).toNat)

/-- The product, rounded. -/
def mul : Binary64 → Binary64 → Binary64
  | .finite n m e, .finite n' m' e' =>
    let r := ratio (m * m') (e + e')
    ofRatio (n != n') r.1 r.2
  | .infinite n, .finite n' m' _ => if m' = 0 then .nan else .infinite (n != n')
  | .finite n m _, .infinite n' => if m = 0 then .nan else .infinite (n != n')
  | .infinite n, .infinite n' => .infinite (n != n')
  | _, _ => .nan

private def multiple (n : Bool) (m : Nat) (e : Int) : Int :=
  let k := m * Nat.pow 2 (e - leastExponent).toNat
  if n then -(k : Int) else k

/-- The sum, rounded. A sum of zero is negative only if both terms are. -/
def add : Binary64 → Binary64 → Binary64
  | .finite n m e, .finite n' m' e' =>
    let s := multiple n m e + multiple n' m' e'
    ofRatio (if s = 0 then n && n' else decide (s < 0)) s.natAbs (Nat.pow 2 1074)
  | .infinite n, .infinite n' => if n = n' then .infinite n else .nan
  | .infinite n, .finite _ _ _ => .infinite n
  | .finite _ _ _, .infinite n' => .infinite n'
  | _, _ => .nan

/-- Whether a finite number equals a whole number. -/
def equalsInt (x : Binary64) (i : Int) : Bool :=
  match x with
  | .finite n m e => multiple n m e == i * (Nat.pow 2 1074 : Nat)
  | _ => false

/-- Whether two numbers are equal, zeros of either sign being equal and a NaN only to itself. -/
def sameNumber (x y : Binary64) : Bool := x == y || (x.isZero && y.isZero)

end Binary64
end TestSkeleton
