import TestSkeleton.Fault
import TestSkeleton.Number.Layout
import TestSkeleton.Number.Numeral
import TestSkeleton.Text.Digit

/-!
# Field styles

The style of a field says how its value is written: fill and alignment, sign, width, grouping of
digits, precision and the letter of a form, in this order:
`[[fill]align][sign][z][#][0][width][grouping][.precision][form]`.
-/

namespace TestSkeleton.Template

open Text

/-- Why a template cannot be filled in. -/
inductive Problem where
  /-- The template, or a style in it, does not fit its arguments. -/
  | rejected
  /-- A failure that formatting does not report. -/
  | fault (f : Fault)
deriving DecidableEq, Repr, Inhabited

/-- The largest number that a template may spell. -/
def greatestNumber : Nat := Nat.pow 2 63 - 1

/-- The largest precision of a floating-point number. -/
def greatestPrecision : Nat := Nat.pow 2 31 - 1

/-- The largest width of a field that still fits into memory. -/
def greatestWidth : Nat := Nat.pow 2 32

/-- Where a value stands in a wider field; `afterSign` fills between sign and digits. -/
inductive Align where
  | left | right | center | afterSign
deriving DecidableEq, Repr, Inhabited

/-- The alignment of a mark. -/
def Align.ofChar? : Char → Option Align
  | '<' => some left
  | '>' => some right
  | '^' => some center
  | '=' => some afterSign
  | _ => none

/-- What stands before a number that is not negative. -/
inductive SignStyle where
  | none | plus | blank | minus
deriving DecidableEq, Repr, Inhabited

/-- The sign style of a mark. -/
def SignStyle.ofChar? : Char → Option SignStyle
  | '+' => some plus
  | ' ' => some blank
  | '-' => some minus
  | _ => Option.none

/-- A style. Absent parts are left to the kind of the value. -/
structure FieldStyle where
  fill : Char := ' '
  align : Option Align := none
  sign : SignStyle := .none
  dropsZeroSign : Bool := false
  alternate : Bool := false
  /-- Whether a zero before the width asks for zeros as fill. -/
  zeroFill : Bool := false
  width : Option Nat := none
  grouping : Option Char := none
  precision : Option Nat := none
  form : Option Char := none
deriving DecidableEq, Repr, Inhabited

/-- A run of digits as a number, none if there are no digits, and the rest. -/
def takeNumber (cs : List Char) : Except Problem (Option Nat × List Char) :=
  let digits := cs.takeWhile fun c => (digitValue? c).isSome
  let rest := cs.dropWhile fun c => (digitValue? c).isSome
  let n := digits.foldl (fun n c => n * 10 + (digitValue? c).getD 0) 0
  if digits.isEmpty then .ok (none, rest)
  else if greatestNumber < n then .error .rejected
  else .ok (some n, rest)

namespace FieldStyle

private def takeAlign : List Char → (Option Char × Option Align) × List Char
  | c :: d :: rest =>
    match Align.ofChar? d, Align.ofChar? c with
    | some a, _ => ((some c, some a), rest)
    | none, some a => ((none, some a), d :: rest)
    | none, none => ((none, none), c :: d :: rest)
  | [c] =>
    match Align.ofChar? c with
    | some a => ((none, some a), [])
    | none => ((none, none), [c])
  | [] => ((none, none), [])

private def takeSign : List Char → SignStyle × List Char
  | c :: rest =>
    match SignStyle.ofChar? c with
    | some s => (s, rest)
    | none => (.none, c :: rest)
  | [] => (.none, [])

private def takeFlag (flag : Char) : List Char → Bool × List Char
  | c :: rest => if c = flag then (true, rest) else (false, c :: rest)
  | [] => (false, [])

private def takeGrouping (cs : List Char) : Except Problem (Option Char × List Char) :=
  match cs with
  | ',' :: '_' :: _ => .error .rejected
  | '_' :: ',' :: _ => .error .rejected
  | ',' :: rest => .ok (some ',', rest)
  | '_' :: rest => .ok (some '_', rest)
  | _ => .ok (none, cs)

private def takePrecision : List Char → Except Problem (Option Nat × List Char)
  | '.' :: rest => do
    match ← takeNumber rest with
    | (some n, rest) => return (some n, rest)
    | (none, _) => throw .rejected
  | cs => .ok (none, cs)

private def takeForm : List Char → Except Problem (Option Char)
  | [] => .ok none
  | [c] => .ok (some c)
  | _ => .error .rejected

/-- Reads a style. `usual` is the form of the kind of value, for a style that names none. -/
def read (usual : Option Char) (cs : List Char) : Except Problem FieldStyle := do
  let ((fill, align), cs) := takeAlign cs
  let (sign, cs) := takeSign cs
  let (dropsZeroSign, cs) := takeFlag 'z' cs
  let (alternate, cs) := takeFlag '#' cs
  let (zeroFill, cs) := if fill.isNone then takeFlag '0' cs else (false, cs)
  let (width, cs) ← takeNumber cs
  let (grouping, cs) ← takeGrouping cs
  let (precision, cs) ← takePrecision cs
  let form ← takeForm cs
  -- Where no form is usual, a NUL asks for none.
  let form := if usual.isNone && form == some '\x00' then none else form.or usual
  if !groupingFits grouping form then throw .rejected
  return {
    fill := fill.getD (if zeroFill then '0' else ' ')
    align, sign, dropsZeroSign, alternate, zeroFill, width, grouping, precision, form }
where
  /-- Decimal forms take both marks, the others for whole numbers the underscore alone. -/
  groupingFits (grouping form : Option Char) : Bool :=
    match grouping, form with
    | none, _ => true
    | some _, none => true
    | some g, some n => "deEfFgG%".toList.contains n || (g == '_' && "boxX".toList.contains n)

/-- The number of digits in a group. -/
def groupSize (style : FieldStyle) : Nat :=
  match style.form with
  | some n => if "boxX".toList.contains n then 4 else 3
  | none => 3

end FieldStyle

/-- Refuses a field that does not fit into memory. -/
def checkWidth (style : FieldStyle) : Except Problem Unit :=
  if greatestWidth < style.width.getD 0 then .error (.fault .tooLong) else .ok ()

/-- Fills a text up to the width of a style. -/
def pad (style : FieldStyle) (align : Align) (cs : List Char) : List Char :=
  let missing := style.width.getD 0 - cs.length
  match align with
  | .right => List.replicate missing style.fill ++ cs
  | .center =>
    List.replicate (missing / 2) style.fill ++ cs
      ++ List.replicate (missing - missing / 2) style.fill
  | .left | .afterSign => cs ++ List.replicate missing style.fill

/-- A text in a style. -/
def formatText (style : FieldStyle) (s : String) : Except Problem String := do
  if style.form ≠ some 's' ∨ style.sign ≠ .none ∨ style.dropsZeroSign ∨ style.alternate
      ∨ style.align = some .afterSign then throw .rejected
  checkWidth style
  let cs := match style.precision with
    | some n => s.toList.take n
    | none => s.toList
  return String.ofList (pad style (style.align.getD .left) cs)

-- Digits in reverse with a mark after each full group that more digits follow; while the least
-- width is not reached, zeros follow. `room` counts the digits that the current group still takes.
private def groupFrom (mark : Char) (size : Nat) : Nat → Nat → Nat → List Char → List Char
  | 0, _, _, ds => ds
  | fuel + 1, room, width, ds =>
    if ds.isEmpty ∧ width = 0 then []
    else match room with
      -- A digit stands before every mark.
      | 0 => mark :: groupFrom mark size fuel size (max 1 (width - 1)) ds
      | room + 1 => ds.headD '0' :: groupFrom mark size fuel room (width - 1) ds.tail

/-- Digits in groups, at least one, filled with zeros up to a width that counts the marks. -/
def groupDigits (grouping : Option Char) (size width : Nat) (digits : List Char) : List Char :=
  match grouping with
  | none => List.replicate (max 1 width - digits.length) '0' ++ digits
  | some mark =>
    (groupFrom mark size (2 * (digits.length + width) + 2) size (max 1 width) digits.reverse).reverse

/-- A number taken apart: whether it is negative, what marks its base, the digits before the point
and all that follows them. -/
structure NumberText where
  negative : Bool
  mark : List Char := []
  digits : List Char
  rest : List Char := []

/-- A number in a style: sign, mark, grouped digits and the rest, filled up to the width. -/
def layOut (style : FieldStyle) (n : NumberText) : String :=
  let sign : List Char :=
    if n.negative then ['-']
    else match style.sign with
      | .plus => ['+']
      | .blank => [' ']
      | .none | .minus => []
  let align := style.align.getD (if style.zeroFill then .afterSign else .right)
  let fixed := sign.length + n.mark.length + n.rest.length
  let zeros := if style.fill = '0' ∧ align = .afterSign then style.width.getD 0 - fixed else 0
  let digits := if n.digits.isEmpty then []
    else groupDigits style.grouping style.groupSize zeros n.digits
  let body := digits ++ n.rest
  String.ofList <| match align with
    | .afterSign =>
      sign ++ n.mark
        ++ List.replicate (style.width.getD 0 - (sign.length + n.mark.length + body.length))
          style.fill
        ++ body
    | align => pad style align (sign ++ n.mark ++ body)

private def upperAscii (cs : List Char) : List Char := cs.map Char.toUpper

/-- More significant digits than any number has. -/
def mostDigits : Nat := 1100

/-- The digits of a finite number in a form with a fixed precision: `e`, `f` or `g` in lower
case. `pointed` keeps the point and the zeros of `g`; `wholeEnd` gives whole numbers a digit after
the point. -/
def finiteDigits (form : Char) (precision : Nat) (pointed wholeEnd : Bool)
    (mantissa : Nat) (exponent : Int) : List Char :=
  match form with
  | 'f' =>
    let n := Binary64.atPlaces mantissa exponent precision
    let ds := Nat.toDigits 10 n
    let ds := List.replicate (precision + 1 - ds.length) '0' ++ ds
    let whole := ds.take (ds.length - precision)
    let fraction := ds.drop (ds.length - precision)
    whole ++ (if fraction.isEmpty then (if pointed then ['.'] else []) else '.' :: fraction)
  | 'e' =>
    -- The greatest precision leaves no room for digits after the point.
    let places := if precision = greatestPrecision then 0 else precision
    let d := Binary64.significant mantissa exponent (places + 1)
    exponential d.digits d.point
  | _ =>
    let count := max 1 precision
    let d := Binary64.significant mantissa exponent (min count mostDigits)
    let kept := if pointed then d.digits ++ List.replicate (count - mostDigits) '0'
      else dropZeros d.digits
    let limit : Int := if wholeEnd then count - 1 else count
    if d.point ≤ -4 ∨ limit < d.point then exponential kept d.point
    else
      let text := FloatLayout.positional kept d.point []
      if text.contains '.' then text
      else if wholeEnd then text ++ ['.', '0']
      else if pointed then text ++ ['.'] else text
where
  /-- Digits without zeros at the end, one digit at least. -/
  dropZeros (ds : List Char) : List Char :=
    let kept := (ds.reverse.dropWhile (· == '0')).reverse
    if kept.isEmpty then ['0'] else kept
  /-- Digits as a mantissa with an exponent. -/
  exponential (ds : List Char) (point : Int) : List Char :=
    ds.take 1
      ++ (if ds.length ≤ 1 then (if pointed then ['.'] else []) else '.' :: ds.drop 1)
      ++ 'e' :: FloatLayout.exponentText 2 (point - 1)

private def splitDigits (negative : Bool) (cs : List Char) : NumberText where
  negative := negative
  digits := cs.takeWhile Char.isDigit
  rest := cs.dropWhile Char.isDigit

/-- A floating-point number in a style. -/
def formatFloat (style : FieldStyle) (x : Binary64) : Except Problem String := do
  let usual := style.form.isNone
  let mark := style.form.getD 'r'
  if !usual && !"eEfFgGn%".toList.contains mark then throw .rejected
  if greatestPrecision < style.precision.getD 0 then throw .rejected
  checkWidth style
  let percent := mark == '%'
  let x := if percent then x.mul (Binary64.ofInt 100) else x
  let lowered := if percent then 'f' else if mark == 'n' then 'g' else mark.toLower
  let body (m : Nat) (e : Int) : List Char :=
    match usual, style.precision with
    | true, none => pointedExponent style.alternate (Binary64.display (.finite false m e)).toList
    | true, some p => finiteDigits 'g' p style.alternate true m e
    | false, p => finiteDigits lowered (p.getD 6) style.alternate false m e
  let text (negative : Bool) (cs : List Char) : NumberText :=
    let cs := if mark.isUpper then upperAscii cs else cs
    splitDigits negative (if percent then cs ++ ['%'] else cs)
  return layOut style <| match x with
    | .nan => text false "nan".toList
    | .infinite n => text n "inf".toList
    | .finite n m e =>
      let cs := body m e
      -- A number that rounds to zero may lose its sign.
      let isZero := (cs.takeWhile fun c => c != 'e').all fun c => c == '0' || c == '.'
      text (n && !(style.dropsZeroSign && isZero)) cs
where
  /-- Gives a mantissa of one digit a point, where one is asked for. -/
  pointedExponent (pointed : Bool) : List Char → List Char
    | d :: 'e' :: cs => if pointed then d :: '.' :: 'e' :: cs else d :: 'e' :: cs
    | cs => cs

-- The digits of a whole number in the base of a form, with the mark of the base.
private def baseDigits (mark : Char) (n : Nat) : List Char × List Char :=
  match mark with
  | 'b' => (['0', 'b'], Nat.toDigits 2 n)
  | 'o' => (['0', 'o'], Nat.toDigits 8 n)
  | 'x' => (['0', 'x'], Nat.toDigits 16 n)
  | 'X' => (['0', 'X'], upperAscii (Nat.toDigits 16 n))
  | _ => ([], Nat.toDigits 10 n)

/-- A whole number in a style. In base ten it may not have too many digits. -/
def formatInt (style : FieldStyle) (i : Int) : Except Problem String := do
  let mark := style.form.getD 'd'
  if "eEfFgG%".toList.contains mark then
    match Binary64.ofInt i with
    | .infinite _ => throw (.fault .outOfRange)
    | x => formatFloat style x
  else if !"bcdnoxX".toList.contains mark then throw .rejected
  else if style.precision.isSome || style.dropsZeroSign then throw .rejected
  else if mark == 'c' then
    if style.sign ≠ .none || style.alternate then throw .rejected
    if i < 0 || 0x10ffff < i then throw (.fault .outOfRange)
    checkWidth style
    let c ← (charOf shownHalf i.toNat).mapError .fault
    return layOut style { negative := false, digits := [], rest := [c] }
  else
    if !"boxX".toList.contains mark && Numeral.isLong i then throw .rejected
    checkWidth style
    let (base, digits) := baseDigits mark i.natAbs
    return layOut style
      { negative := decide (i < 0), mark := if style.alternate then base else [], digits }

end TestSkeleton.Template
