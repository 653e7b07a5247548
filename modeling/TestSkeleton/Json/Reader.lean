import TestSkeleton.Document.Value
import TestSkeleton.Fault
import TestSkeleton.Number.Numeral

/-!
# Reading JSON

A reader for JSON texts. Beyond the standard it takes the names `NaN`, `Infinity` and `-Infinity`,
and of several members with one name the last gives the value. A byte-order mark in front, control
characters in strings and anything after the value are refused. A whole number with too many digits
and collections nested too deeply are faults; of several problems the first in the text counts.

An escape may spell half of a surrogate pair on its own, which no text holds. What becomes of it
depends on what the document is read for, and is a parameter of the reader.
-/

namespace TestSkeleton.Json

open Text

/-- Whether a character is JSON white space. -/
def isSpace (c : Char) : Bool := c == ' ' || c == '\t' || c == '\n' || c == '\r'

/-- Whether a character is an ASCII digit. -/
def isDigit (c : Char) : Bool := '0' ≤ c && c ≤ '9'

/-- The rest of a text after a word it starts with. -/
def afterWord? (word : String) (cs : List Char) : Option (List Char) :=
  if word.toList.isPrefixOf cs then some (cs.drop word.length) else none

/-- The number that four hexadecimal digits spell. -/
def hex4? (a b c d : Char) : Option Nat :=
  if [a, b, c, d].all isHexDigit then some (ofDigits 16 [a, b, c, d]) else none

/-- The character of a simple escape. -/
def escape? : Char → Option Char
  | '"' => some '"'
  | '\\' => some '\\'
  | '/' => some '/'
  | 'b' => some '\x08'
  | 'f' => some '\x0c'
  | 'n' => some '\n'
  | 'r' => some '\r'
  | 't' => some '\t'
  | _ => none

private def isFirstHalf (n : Nat) : Bool := 0xd800 ≤ n && n ≤ 0xdbff

private def isSecondHalf (n : Nat) : Bool := 0xdc00 ≤ n && n ≤ 0xdfff

/-- The characters of a string up to its closing quote, and the rest after it. `done` holds the
characters read so far, the last one first. -/
def stringBody (half : Except Fault Char) (done : List Char) :
    List Char → Except TextProblem (List Char × List Char)
  | [] => .error .malformed
  | '"' :: rest => .ok (done.reverse, rest)
  | '\\' :: 'u' :: a :: b :: c :: d :: '\\' :: 'u' :: e :: f :: g :: h :: rest =>
    match hex4? a b c d, hex4? e f g h with
    | some m, some n =>
      if isFirstHalf m && isSecondHalf n then
        stringBody half (Char.ofNat (0x10000 + (m - 0xd800) * 0x400 + (n - 0xdc00)) :: done) rest
      else
        match charOf half m with
        | .ok x => stringBody half (x :: done) ('\\' :: 'u' :: e :: f :: g :: h :: rest)
        | .error fault => .error (.fault fault)
    | _, _ => .error .malformed
  | '\\' :: 'u' :: a :: b :: c :: d :: rest =>
    match hex4? a b c d with
    | some m =>
      match charOf half m with
      | .ok x => stringBody half (x :: done) rest
      | .error fault => .error (.fault fault)
    | none => .error .malformed
  | '\\' :: c :: rest =>
    match escape? c with
    | some x => stringBody half (x :: done) rest
    | none => .error .malformed
  | c :: rest => if c.toNat < 0x20 then .error .malformed else stringBody half (c :: done) rest

-- The fraction of a number, without its point, if digits follow the point.
private def fraction (cs : List Char) : Option (List Char × List Char) :=
  match cs with
  | '.' :: rest =>
    let ds := rest.takeWhile isDigit
    if ds.isEmpty then none else some (ds, rest.dropWhile isDigit)
  | _ => none

private def exponent (cs : List Char) : Option (Int × List Char) :=
  match cs with
  | c :: rest =>
    if c = 'e' ∨ c = 'E' then
      let (negative, rest) := Numeral.splitSign rest
      let ds := rest.takeWhile isDigit
      if ds.isEmpty then none
      else some (Numeral.signed negative (ofDigits 10 ds), rest.dropWhile isDigit)
    else none
  | [] => none

/-- A number and the rest. Without fraction and exponent it is a whole number. -/
def number (cs : List Char) : Except TextProblem (Value × List Char) :=
  let (negative, cs) := match cs with
    | '-' :: rest => (true, rest)
    | _ => (false, cs)
  let whole := match cs with
    | '0' :: _ => ['0']
    | _ => cs.takeWhile isDigit
  if whole.isEmpty then .error .malformed else
  let rest := cs.drop whole.length
  match fraction rest, exponent ((fraction rest).elim rest (·.2)) with
  | none, none =>
    match Numeral.ofDecimalDigits? negative whole with
    | some i => .ok (.int i, rest)
    | none => .error (.fault .badValue)
  | f, e =>
    let ds := (f.elim [] (·.1))
    let power := (e.elim 0 (·.1)) - ds.length
    let rest := e.elim (f.elim rest (·.2)) (·.2)
    .ok (.float (Binary64.ofDecimal negative (ofDigits 10 (whole ++ ds)) power), rest)

/-- How deeply collections may be nested, a limit of one environment like `Value.greatestDepth`. -/
def greatestDepth : Nat := 985

mutual

/-- A value and the rest. The fuel bounds the number of values and members that are begun, and
`room` is the depth to which collections may still be nested. -/
def value (half : Except Fault Char) :
    Nat → Nat → List Char → Except TextProblem (Value × List Char)
  | 0, _, _ => .error .malformed
  | fuel + 1, room, cs =>
    match cs, room with
    | '"' :: rest, _ => do
      let (s, rest) ← stringBody half [] rest
      return (.text (String.ofList s), rest)
    | '[' :: _, 0 | '\x7b' :: _, 0 => .error (.fault .tooDeep)
    | '[' :: rest, room + 1 =>
      match rest.dropWhile isSpace with
      | ']' :: rest => .ok (.list [], rest)
      | rest => items half fuel room [] rest
    | '\x7b' :: rest, room + 1 =>
      match rest.dropWhile isSpace with
      | '\x7d' :: rest => .ok (.map [], rest)
      | rest => members half fuel room [] rest
    | cs, _ =>
      match afterWord? "null" cs, afterWord? "true" cs, afterWord? "false" cs with
      | some rest, _, _ => .ok (.null, rest)
      | _, some rest, _ => .ok (.bool true, rest)
      | _, _, some rest => .ok (.bool false, rest)
      | none, none, none =>
        match afterWord? "NaN" cs, afterWord? "Infinity" cs, afterWord? "-Infinity" cs with
        | some rest, _, _ => .ok (.float .nan, rest)
        | _, some rest, _ => .ok (.float (.infinite false), rest)
        | _, _, some rest => .ok (.float (.infinite true), rest)
        | none, none, none => number cs

/-- The items of a list up to its bracket; `done` holds the ones before, the last one first. -/
def items (half : Except Fault Char) :
    Nat → Nat → List Value → List Char → Except TextProblem (Value × List Char)
  | 0, _, _, _ => .error .malformed
  | fuel + 1, room, done, cs => do
    let (v, rest) ← value half fuel room cs
    match rest.dropWhile isSpace with
    | ',' :: rest => items half fuel room (v :: done) (rest.dropWhile isSpace)
    | ']' :: rest => return (.list (v :: done).reverse, rest)
    | _ => throw .malformed

/-- The members of an object up to its brace; `done` holds the ones before, the last one first. -/
def members (half : Except Fault Char) : Nat → Nat → List (Value × Value) → List Char →
    Except TextProblem (Value × List Char)
  | 0, _, _, _ => .error .malformed
  | fuel + 1, room, done, cs =>
    match cs with
    | '"' :: rest => do
      let (name, rest) ← stringBody half [] rest
      match rest.dropWhile isSpace with
      | ':' :: rest =>
        let (v, rest) ← value half fuel room (rest.dropWhile isSpace)
        let done := (.text (String.ofList name), v) :: done
        match rest.dropWhile isSpace with
        | ',' :: rest => members half fuel room done (rest.dropWhile isSpace)
        | '\x7d' :: rest => return (.ofEntries done.reverse, rest)
        | _ => throw .malformed
      | _ => throw .malformed
    | _ => .error .malformed

end

/-- The value that a text spells in JSON. Unless it is read for other things, it is to be shown. -/
def read (s : String) (half : Except Fault Char := shownHalf) : Except TextProblem Value := do
  let cs := s.toList
  let (v, rest) ← value half (cs.length + 1) greatestDepth (cs.dropWhile isSpace)
  if rest.all isSpace then return v else throw .malformed

end TestSkeleton.Json
