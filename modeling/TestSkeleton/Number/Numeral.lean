import TestSkeleton.Number.Layout
import TestSkeleton.Text.Blank
import TestSkeleton.Text.Digit
import TestSkeleton.Text.Case

/-!
# Reading numerals

Whole numbers in bases up to sixteen and decimal fractions, as texts that may have blanks around
them, a sign, and single underscores between digits. The digits may be those of any script. A
decimal numeral of a whole number has a greatest length, so that reading and writing it stays cheap;
the bases that are powers of two have none.
-/

namespace TestSkeleton.Numeral

open Text

/-- The digits of a numeral in which single underscores may stand between digits. -/
def ungroup? (isDigit : Char → Bool) (cs : List Char) : Option (List Char) :=
  let pieces := cs.splitOn '_'
  if pieces.all fun p => !p.isEmpty && p.all isDigit then some pieces.flatten else none

/-- A digit of any script as the ASCII digit of its value; any other character as it is. -/
def asciiDigit (c : Char) : Char :=
  match digitValue? c with
  | some n => Nat.digitChar n
  | none => c

/-- The characters of a numeral: without blanks at the ends, and with ASCII digits. -/
def chars (s : String) : List Char := (dropBlanksRight (dropBlanks s.toList)).map asciiDigit

/-- A sign, if there is one, and the rest. -/
def splitSign : List Char → Bool × List Char
  | '-' :: rest => (true, rest)
  | '+' :: rest => (false, rest)
  | rest => (false, rest)

/-- A whole number with a sign. -/
def signed (negative : Bool) (n : Nat) : Int := if negative then -(n : Int) else n

/-- The greatest number of digits of a decimal numeral of a whole number. -/
def greatestLength : Nat := 4300

/-- Whether a whole number has more decimal digits than a numeral may have. -/
def isLong (i : Int) : Bool := decide (Nat.pow 10 greatestLength ≤ i.natAbs)

/-- The whole number of decimal digits, if they are not too many. -/
def ofDecimalDigits? (negative : Bool) (digits : List Char) : Option Int :=
  if greatestLength < digits.length then none else some (signed negative (ofDigits 10 digits))

/-- The letter that marks a base after a leading zero. -/
def baseMark? : Nat → Option Char
  | 2 => some 'b'
  | 8 => some 'o'
  | 16 => some 'x'
  | _ => none

-- The digits after a base mark, if the numeral starts with that of its base. An underscore may
-- follow the mark.
private def afterMark (base : Nat) : List Char → List Char
  | '0' :: m :: rest =>
    if (baseMark? base).isSome && (baseMark? base == some m || baseMark? base == some m.toLower) then
      match rest with
      | '_' :: rest' => rest'
      | _ => rest
    else '0' :: m :: rest
  | cs => cs

/-- A whole number in a base, which its mark may announce. -/
def int? (base : Nat) (s : String) : Option Int :=
  let (negative, cs) := splitSign (chars s)
  (ungroup? (fun c => (baseDigit? base c).isSome) (afterMark base cs)).bind fun ds =>
    if base = 10 then ofDecimalDigits? negative ds else some (signed negative (ofDigits base ds))

-- The digits of a decimal numeral up to its first character that is no digit or underscore.
private def digitRun (cs : List Char) : List Char × List Char :=
  cs.span fun c => (baseDigit? 10 c).isSome || c == '_'

private def part? (cs : List Char) : Option (List Char) :=
  if cs.isEmpty then some [] else ungroup? (fun c => (baseDigit? 10 c).isSome) cs

private def exponent? : List Char → Option Int
  | [] => some 0
  | c :: rest =>
    if c = 'e' ∨ c = 'E' then
      let (negative, cs) := splitSign rest
      (ungroup? (fun d => (baseDigit? 10 d).isSome) cs).map fun ds => signed negative (ofDigits 10 ds)
    else none

/-- A decimal fraction with an optional exponent, or the name of an infinity or NaN. -/
def float? (s : String) : Option Binary64 :=
  let (negative, cs) := splitSign (chars s)
  let word := cs.map Char.toLower
  if word = "inf".toList ∨ word = "infinity".toList then some (.infinite negative)
  else if word = "nan".toList then some .nan
  else do
    let (whole, rest) := digitRun cs
    let (fraction, rest) := match rest with
      | '.' :: r => digitRun r
      | r => ([], r)
    let w ← part? whole
    let f ← part? fraction
    let e ← exponent? rest
    if w.isEmpty && f.isEmpty then none
    else some (Binary64.ofDecimal negative (ofDigits 10 (w ++ f)) (e - f.length))

end TestSkeleton.Numeral
