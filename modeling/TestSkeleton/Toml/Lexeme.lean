import TestSkeleton.Document.Value
import TestSkeleton.Fault
import TestSkeleton.Number.Numeral

/-!
# Words of TOML text

Keys, strings, numbers, dates and times as they stand in a TOML text. Each reader takes characters
from the front and returns what they spell and the rest, or nothing if the text is malformed.
Line ends written as carriage return and line feed are single line feeds before.
-/

namespace TestSkeleton.Toml

open Text

/-- Whether a character is white space within a line. -/
def isSpace (c : Char) : Bool := c == ' ' || c == '\t'

/-- Whether a character is white space or a line end. -/
def isSpaceOrEnd (c : Char) : Bool := isSpace c || c == '\n'

/-- Whether a character is a control character other than a tab, which strings on one line and
comments may not hold. -/
def isControl (c : Char) : Bool := (c.toNat < 0x20 && c != '\t') || c.toNat == 0x7f

/-- Whether a character may stand in a key without quotes. -/
def isBareKeyChar (c : Char) : Bool :=
  ('0' ≤ c && c ≤ '9') || ('A' ≤ c && c ≤ 'Z') || ('a' ≤ c && c ≤ 'z') || c == '-' || c == '_'

/-- Whether a character is an ASCII digit. -/
def isDigit (c : Char) : Bool := '0' ≤ c && c ≤ '9'

/-- The text after white space within a line. -/
def skipSpaces (cs : List Char) : List Char := cs.dropWhile isSpace

/-- The text after a comment, if one starts here; a comment ends before its line end. -/
def skipComment? (cs : List Char) : Option (List Char) :=
  match cs with
  | '#' :: rest =>
    if (rest.takeWhile (· ≠ '\n')).any isControl then none else some (rest.dropWhile (· ≠ '\n'))
  | _ => some cs

/-- The text after a word it starts with. -/
def afterWord? (word : String) (cs : List Char) : Option (List Char) :=
  if word.toList.isPrefixOf cs then some (cs.drop word.length) else none

/-! ### Strings -/

private def numericEscape? (n : Nat) (cs : List Char) : Option (Char × List Char) :=
  let ds := cs.take n
  let v := ofDigits 16 ds
  if ds.length == n && ds.all isHexDigit && (v < 0xd800 || (0xdfff < v && v ≤ 0x10ffff)) then
    some (Char.ofNat v, cs.drop n)
  else none

-- The character of an escape, from the character after its backslash on.
private def escape? : List Char → Option (Char × List Char)
  | 'b' :: rest => some ('\x08', rest)
  | 't' :: rest => some ('\t', rest)
  | 'n' :: rest => some ('\n', rest)
  | 'f' :: rest => some ('\x0c', rest)
  | 'r' :: rest => some ('\r', rest)
  | '"' :: rest => some ('"', rest)
  | '\\' :: rest => some ('\\', rest)
  | 'u' :: rest => numericEscape? 4 rest
  | 'U' :: rest => numericEscape? 8 rest
  | _ => none

-- The text after an escaped line end, which takes all white space after it too. `none` if other
-- characters stand before the line end.
private def afterLineEnd? (cs : List Char) : Option (List Char) :=
  match skipSpaces cs with
  | [] => some []
  | '\n' :: rest => some (rest.dropWhile isSpaceOrEnd)
  | _ => none

-- The rest of a string in double quotes; `done` holds the characters so far, the last one first.
private def basicRest? (multiline : Bool) :
    Nat → List Char → List Char → Option (List Char × List Char)
  | 0, _, _ => none
  | fuel + 1, done, cs =>
    match cs with
    | [] => none
    | '"' :: rest =>
      if !multiline then some (done.reverse, rest)
      else match rest with
        | '"' :: '"' :: rest => some (done.reverse, rest)
        | _ => basicRest? multiline fuel ('"' :: done) rest
    | '\\' :: rest =>
      if multiline && (rest.head?.any isSpaceOrEnd) then do
        basicRest? multiline fuel done (← afterLineEnd? rest)
      else do
        let (c, rest) ← escape? rest
        basicRest? multiline fuel (c :: done) rest
    | c :: rest =>
      if isControl c && !(multiline && c == '\n') then none
      else basicRest? multiline fuel (c :: done) rest

private def literalRest? : List Char → List Char → Option (List Char × List Char)
  | _, [] => none
  | done, '\'' :: '\'' :: '\'' :: rest => some (done.reverse, rest)
  | done, c :: rest => if isControl c && c != '\n' then none else literalRest? (c :: done) rest

/-- A string on one line in double quotes, after the opening quote. -/
def basicString? (cs : List Char) : Option (List Char × List Char) :=
  basicRest? false (cs.length + 1) [] cs

/-- A string on one line in single quotes, after the opening quote. -/
def literalString? (cs : List Char) : Option (List Char × List Char) :=
  let body := cs.takeWhile (· ≠ '\'')
  match cs.drop body.length with
  | _ :: rest => if body.any isControl then none else some (body, rest)
  | [] => none

private def dropFirstEnd : List Char → List Char
  | '\n' :: rest => rest
  | cs => cs

/-- A string on several lines, after its three opening quotes. One or two quotes more at its end
belong to the string. -/
def multilineString? (quote : Char) (cs : List Char) : Option (List Char × List Char) := do
  let cs := dropFirstEnd cs
  let (body, rest) ←
    if quote = '"' then basicRest? true (cs.length + 1) [] cs else literalRest? [] cs
  let more := (rest.take 2).takeWhile (· == quote)
  return (body ++ more, rest.drop more.length)

/-! ### Keys -/

private def keyPart? (cs : List Char) : Option (String × List Char) :=
  match cs with
  | '\'' :: rest => (literalString? rest).map fun r => (String.ofList r.1, r.2)
  | '"' :: rest => (basicString? rest).map fun r => (String.ofList r.1, r.2)
  | _ =>
    let word := cs.takeWhile isBareKeyChar
    if word.isEmpty then none else some (String.ofList word, cs.drop word.length)

-- The parts of a key, with points between them and white space around the points.
private def keyParts? : Nat → List Char → Option (List String × List Char)
  | 0, _ => none
  | fuel + 1, cs => do
    let (part, rest) ← keyPart? cs
    match skipSpaces rest with
    | '.' :: rest =>
      let (parts, rest) ← keyParts? fuel (skipSpaces rest)
      return (part :: parts, rest)
    | rest => return ([part], rest)

/-- A key and the text after the white space that follows it. -/
def key? (cs : List Char) : Option (List String × List Char) := keyParts? (cs.length + 1) cs

/-! ### Dates, times and numbers -/

private def digits? (n : Nat) (cs : List Char) : Option (Nat × List Char) :=
  let ds := cs.take n
  if ds.length == n && ds.all isDigit then some (ofDigits 10 ds, cs.drop n) else none

private def upTo? (limit : Nat) (cs : List Char) : Option (Nat × List Char) :=
  (digits? 2 cs).filter (·.1 ≤ limit)

-- The places after the point of a second as microseconds; more than six are cut.
private def micros (cs : List Char) : Nat × List Char :=
  match cs with
  | '.' :: rest =>
    let ds := rest.takeWhile isDigit
    if ds.isEmpty then (0, cs)
    else (ofDigits 10 ((ds ++ List.replicate 6 '0').take 6), rest.drop ds.length)
  | _ => (0, cs)

/-- A time of day. -/
def time? (cs : List Char) : Option (TimeOfDay × List Char) := do
  let (hour, rest) ← upTo? 23 cs
  let (minute, rest) ← upTo? 59 (← afterWord? ":" rest)
  let (second, rest) ← upTo? 59 (← afterWord? ":" rest)
  let (us, rest) := micros rest
  return (⟨hour, minute, second, us⟩, rest)

private def offset (cs : List Char) : Option Int × List Char :=
  match cs with
  | 'Z' :: rest | 'z' :: rest => (some 0, rest)
  | sign :: rest =>
    if sign = '+' ∨ sign = '-' then
      let parts : Option (Int × List Char) := do
        let (hour, rest) ← upTo? 23 rest
        let (minute, rest) ← upTo? 59 (← afterWord? ":" rest)
        return (Numeral.signed (sign == '-') (60 * hour + minute), rest)
      match parts with
      | some (o, rest) => (some o, rest)
      | none => (none, cs)
    else (none, cs)
  | [] => (none, cs)

private def dateDigits? (cs : List Char) : Option ((Nat × Nat × Nat) × List Char) := do
  let (year, rest) ← digits? 4 cs
  let (month, rest) ← (upTo? 12 (← afterWord? "-" rest)).filter (1 ≤ ·.1)
  let (day, rest) ← (upTo? 31 (← afterWord? "-" rest)).filter (1 ≤ ·.1)
  return ((year, month, day), rest)

private def joinedTime? (cs : List Char) : Option (TimeOfDay × List Char) :=
  match cs with
  | c :: rest => if c = 'T' ∨ c = 't' ∨ c = ' ' then time? rest else none
  | [] => none

/-- A date, with or without a time. The inner option is empty if the day does not exist. -/
def dateOrDateTime? (cs : List Char) : Option (Option Moment × List Char) := do
  let ((y, m, d), rest) ← dateDigits? cs
  match joinedTime? rest with
  | some (t, rest) =>
    let (o, rest) := offset rest
    return ((Date.ofParts? y m d).map fun date => .dateTime date t o, rest)
  | none => return ((Date.ofParts? y m d).map .date, rest)

-- Digits that start with one, in which single underscores may stand between digits, and the rest.
private def grouped (isDigit : Char → Bool) : List Char → List Char × List Char
  | '_' :: c :: rest =>
    if isDigit c then
      let (ds, rest) := grouped isDigit rest
      (c :: ds, rest)
    else ([], '_' :: c :: rest)
  | c :: rest =>
    if isDigit c then
      let (ds, rest) := grouped isDigit rest
      (c :: ds, rest)
    else ([], c :: rest)
  | [] => ([], [])

private def grouped? (isDigit : Char → Bool) (cs : List Char) : Option (List Char × List Char) :=
  if cs.head?.any isDigit then some (grouped isDigit cs) else none

/-- A whole number in another base than ten, after the mark of its base. It has no sign. -/
def marked? (cs : List Char) : Option (Value × List Char) :=
  let read (base : Nat) (rest : List Char) : Option (Value × List Char) :=
    (grouped? (fun c => (baseDigit? base c).isSome) rest).map fun r =>
      (.int (ofDigits base r.1), r.2)
  match cs with
  | '0' :: 'x' :: rest => read 16 rest
  | '0' :: 'o' :: rest => read 8 rest
  | '0' :: 'b' :: rest => read 2 rest
  | _ => none

-- The whole part of a decimal number: a zero, or digits that do not start with one.
private def wholePart? (cs : List Char) : Option (List Char × List Char) :=
  match cs with
  | '0' :: rest => some (['0'], rest)
  | _ => grouped? isDigit cs

/-- A decimal number. A fraction or exponent makes it a floating-point number; a whole number with
too many digits is a fault. -/
def decimal? (cs : List Char) : Option (Except Fault Value × List Char) := do
  let (negative, rest) := Numeral.splitSign cs
  let (whole, rest) ← wholePart? rest
  let fraction? := match rest with
    | '.' :: r => grouped? isDigit r
    | _ => none
  let afterFraction := fraction?.elim rest (·.2)
  let exponent? : Option (Int × List Char) := match afterFraction with
    | c :: r =>
      if c = 'e' ∨ c = 'E' then
        let (minus, r) := Numeral.splitSign r
        (grouped? isDigit r).map fun x => (Numeral.signed minus (ofDigits 10 x.1), x.2)
      else none
    | [] => none
  match fraction?, exponent? with
  | none, none =>
    match Numeral.ofDecimalDigits? negative whole with
    | some i => return (.ok (.int i), rest)
    | none => return (.error .badValue, rest)
  | f, e =>
    let places := f.elim [] (·.1)
    return (.ok (.float (Binary64.ofDecimal negative (ofDigits 10 (whole ++ places))
      (e.elim 0 (·.1) - places.length))), e.elim afterFraction (·.2))

/-- A number, or the name of one that is none. -/
def number (cs : List Char) : Except TextProblem (Value × List Char) :=
  match marked? cs with
  | some r => .ok r
  | none =>
    match decimal? cs with
    | some (.ok v, rest) => .ok (v, rest)
    | some (.error f, _) => .error (.fault f)
    | none =>
      let (negative, rest) := Numeral.splitSign cs
      match afterWord? "inf" rest, afterWord? "nan" rest with
      | some rest, _ => .ok (.float (.infinite negative), rest)
      | none, some rest => .ok (.float .nan, rest)
      | none, none => .error .malformed

end TestSkeleton.Toml
