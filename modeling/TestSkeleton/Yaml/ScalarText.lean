import TestSkeleton.Yaml.Cursor
import TestSkeleton.Text.Digit

/-!
# Scalars in YAML text

The four ways to write a scalar: plain, in single or double quotes, and as a block of indented
lines. Each reader starts where the scalar starts and returns its characters and the cursor after
it. Lines that continue a scalar are folded: a single line break becomes a blank, and of several
breaks the first is dropped.
-/

namespace TestSkeleton.Yaml

open Text

/-! ### Quoted scalars -/

/-- The character of a one-character escape in double quotes. -/
def escape? : Char → Option Char
  | '0' => some '\x00'
  | 'a' => some '\x07'
  | 'b' => some '\x08'
  | 't' => some '\t'
  | '\t' => some '\t'
  | 'n' => some '\n'
  | 'v' => some '\x0b'
  | 'f' => some '\x0c'
  | 'r' => some '\r'
  | 'e' => some '\x1b'
  | ' ' => some ' '
  | '"' => some '"'
  | '\\' => some '\\'
  | '/' => some '/'
  | 'N' => some '\x85'
  | '_' => some '\xa0'
  | 'L' => some '\u2028'
  | 'P' => some '\u2029'
  | _ => none

/-- The number of digits of a numeric escape. -/
def escapeLength? : Char → Option Nat
  | 'x' => some 2
  | 'u' => some 4
  | 'U' => some 8
  | _ => none

-- The character of a code point in an escape. Numbers beyond the last code point are impossible
-- values, and so is half a surrogate pair.
private def codePoint (n : Nat) : Except TextProblem Char :=
  if 0x7fffffff < n then .error (.fault .outOfRange)
  else if 0x10ffff < n then .error (.fault .badValue)
  else (charOf writtenHalf n).mapError .fault

-- The breaks of the empty lines that follow a line inside quotes.
private def quotedBreaks : Nat → Cursor → List Char → Except TextProblem (List Char × Cursor)
  | 0, c, done => .ok (done, c)
  | fuel + 1, c, done =>
    if c.atAnyMarker then .error .malformed else
    let c := (c.run fun x => x == ' ' || x == '\t').2
    if isBreak c.peek then
      let (b, c) := c.lineBreak
      quotedBreaks fuel c (done ++ b)
    else .ok (done, c)

-- The gap between two words inside quotes, or between two lines of them.
private def quotedGap (c : Cursor) : Except TextProblem (List Char × Cursor) := do
  let (gap, c) := c.run fun x => x == ' ' || x == '\t'
  if c.rest.isEmpty then throw .malformed
  if isBreak c.peek then
    let (b, c) := c.lineBreak
    let (bs, c) ← quotedBreaks (c.rest.length + 1) c []
    return ((if b ≠ ['\n'] then b else if bs.isEmpty then [' '] else []) ++ bs, c)
  else return (gap, c)

-- Words inside quotes up to the closing quote; `done` holds the characters before, the last one
-- first.
private def quotedRest (double : Bool) :
    Nat → Cursor → List Char → Except TextProblem (List Char × Cursor)
  | 0, _, _ => .error .malformed
  | fuel + 1, c, done =>
    let x := c.peek
    let next := c.peekAt 1
    if c.rest.isEmpty then .error .malformed
    else if !double && x == '\'' && next == '\'' then
      quotedRest double fuel (c.skip 2) ('\'' :: done)
    else if x == (if double then '"' else '\'') then .ok (done.reverse, c.advance)
    else if x == ' ' || x == '\t' || isBreak x then do
      let (gap, c) ← quotedGap c
      quotedRest double fuel c (gap.reverse ++ done)
    else if double && x == '\\' then
      match escape? next, escapeLength? next with
      | some y, _ => quotedRest double fuel (c.skip 2) (y :: done)
      | none, some n =>
        let ds := (c.rest.drop 2).take n
        if ds.length == n && ds.all isHexDigit then do
          let y ← codePoint (ofDigits 16 ds)
          quotedRest double fuel (c.skip (2 + n)) (y :: done)
        else .error .malformed
      | none, none =>
        if isBreak next then do
          let (_, c) := c.advance.lineBreak
          let (bs, c) ← quotedBreaks (c.rest.length + 1) c []
          quotedRest double fuel c (bs.reverse ++ done)
        else .error .malformed
    else quotedRest double fuel c.advance (x :: done)

/-- A quoted scalar from its opening quote on. -/
def quotedScalar (double : Bool) (c : Cursor) : Except TextProblem (List Char × Cursor) :=
  quotedRest double (c.rest.length + 1) c.advance []

/-! ### Plain scalars -/

-- Whether a plain scalar ends at the cursor, within one of its words. A colon ends it before a gap,
-- and inside brackets also before the characters that end an item there.
private def plainStops (inFlow : Bool) (x next : Char) : Bool :=
  isGapOrEnd x
    || (x == ':' && (isGapOrEnd next || (inFlow && ",[]\x7b\x7d".toList.contains next)))
    || (inFlow && ",?[]\x7b\x7d".toList.contains x)

private def plainWord (inFlow : Bool) : List Char → List Char → List Char
  | [], done => done
  | x :: rest, done =>
    if plainStops inFlow x (rest.headD '\x00') then done else plainWord inFlow rest (x :: done)

-- The breaks of the empty lines inside a plain scalar; `none` where a document begins or ends.
private def plainBreaks : Nat → Cursor → List Char → Option (List Char) × Cursor
  | 0, c, done => (some done, c)
  | fuel + 1, c, done =>
    let c := c.skipSpaces
    if isBreak c.peek then
      let (b, c) := c.lineBreak
      if c.atAnyMarker then (none, c) else plainBreaks fuel c (done ++ b)
    else (some done, c)

-- The gap after a word of a plain scalar, whether a line ended in it, and the cursor after it. No
-- gap means that the scalar ends.
private def plainGap (c : Cursor) : List Char × Bool × Cursor :=
  let (blanks, c) := c.run (· == ' ')
  if isBreak c.peek then
    let (b, c) := c.lineBreak
    if c.atAnyMarker then ([], true, c) else
    match plainBreaks (c.rest.length + 1) c [] with
    | (none, c) => ([], true, c)
    | (some bs, c) =>
      ((if b ≠ ['\n'] then b else if bs.isEmpty then [' '] else []) ++ bs, true, c)
  else (blanks, false, c)

/-- A plain scalar: its characters, whether the cursor after it is at a new line, and that
cursor. -/
structure PlainScalar where
  chars : List Char
  lineEnded : Bool
  after : Cursor

-- The words of a plain scalar; `done` holds the characters before, the last one first, and `gap`
-- what stands between them and the next word.
private def plainRest (inFlow : Bool) (indent : Int) :
    Nat → Cursor → List Char → List Char → Bool → PlainScalar
  | 0, c, done, _, ended => ⟨done.reverse, ended, c⟩
  | fuel + 1, c, done, gap, ended =>
    if c.peek = '#' then ⟨done.reverse, ended, c⟩ else
    let word := plainWord inFlow c.rest []
    if word.isEmpty then ⟨done.reverse, ended, c⟩ else
    let done := word ++ (gap.reverse ++ done)
    let (gap, ended, c) := plainGap (c.skip word.length)
    if gap.isEmpty || c.peek == '#' || (!inFlow && decide ((c.column : Int) < indent)) then
      ⟨done.reverse, ended, c⟩
    else plainRest inFlow indent fuel c done gap ended

/-- A plain scalar from its first character on, inside a block of the given indentation. -/
def plainScalar (inFlow : Bool) (indent : Int) (c : Cursor) : PlainScalar :=
  plainRest inFlow (indent + 1) (c.rest.length + 1) c [] [] false

/-! ### Block scalars -/

/-- What becomes of the line breaks at the end of a block. -/
inductive Chomping where
  | clip
  | strip
  | keep
deriving DecidableEq

private def chomping? : Char → Option Chomping
  | '+' => some .keep
  | '-' => some .strip
  | _ => none

-- The header of a block: chomping and indentation, in either order.
private def blockHeader (c : Cursor) : Except TextProblem (Chomping × Option Nat × Cursor) := do
  let digit? (x : Char) : Option Nat := baseDigit? 10 x
  let (ch, n, c) := match chomping? c.peek with
    | some ch =>
      match digit? c.advance.peek with
      | some n => (ch, some n, c.skip 2)
      | none => (ch, none, c.advance)
    | none =>
      match digit? c.peek with
      | some n =>
        match chomping? c.advance.peek with
        | some ch => (ch, some n, c.skip 2)
        | none => (.clip, some n, c.advance)
      | none => (.clip, none, c)
  if n = some 0 then throw .malformed
  if isSpaceOrEnd c.peek then return (ch, n, c) else throw .malformed

-- The breaks of the empty lines before a block, the widest indentation among them and the cursor
-- after them.
private def blockLead : Nat → Cursor → List Char → Nat → List Char × Nat × Cursor
  | 0, c, done, widest => (done, widest, c)
  | fuel + 1, c, done, widest =>
    if c.peek = ' ' then
      let c := c.skipSpaces
      blockLead fuel c done (max widest c.column)
    else if isBreak c.peek then
      let (b, c) := c.lineBreak
      blockLead fuel c (done ++ b) widest
    else (done, widest, c)

private def skipIndent (indent : Nat) (c : Cursor) : Cursor :=
  c.skip (c.rest.take (indent - c.column)  |>.takeWhile (· == ' ')).length

private def blockBreaks (indent : Nat) : Nat → Cursor → List Char → List Char × Cursor
  | 0, c, done => (done, c)
  | fuel + 1, c, done =>
    let c := skipIndent indent c
    if isBreak c.peek then
      let (b, c) := c.lineBreak
      blockBreaks indent fuel c (done ++ b)
    else (done, c)

-- The lines of a block; `done` holds the characters before, the last one first, and `breaks` the
-- line breaks since. Returns the characters, the break after the last line and the breaks after
-- that.
private def blockLines (folded : Bool) (indent : Nat) :
    Nat → Cursor → List Char → List Char → List Char → List Char × List Char × List Char × Cursor
  | 0, c, done, breaks, last => (done, last, breaks, c)
  | fuel + 1, c, done, breaks, last =>
    if c.column = indent ∧ !c.rest.isEmpty then
      let startsDark := !(c.peek == ' ' || c.peek == '\t')
      let (line, c) := c.run (!isBreak ·)
      let done := line.reverse ++ (breaks.reverse ++ done)
      let (last, c) := c.lineBreak
      let (breaks, c) := blockBreaks indent (c.rest.length + 1) c []
      if c.column = indent ∧ !c.rest.isEmpty then
        let joint :=
          if folded && last == ['\n'] && startsDark && !(c.peek == ' ' || c.peek == '\t') then
            (if breaks.isEmpty then [' '] else [])
          else last
        blockLines folded indent fuel c (joint.reverse ++ done) breaks last
      else (done, last, breaks, c)
    else (done, last, breaks, c)

/-- A block scalar from its indicator on, inside a block of the given indentation. -/
def blockScalar (folded : Bool) (parent : Int) (c : Cursor) :
    Except TextProblem (List Char × Cursor) := do
  let (chomp, width, c) ← blockHeader c.advance
  let c := c.skipSpaces.skipComment
  if !isBreakOrEnd c.peek then throw .malformed
  let (_, c) := c.lineBreak
  let least : Nat := max 1 (parent + 1).toNat
  let (indent, breaks, c) := match width with
    | none =>
      let (breaks, widest, c) := blockLead (c.rest.length + 1) c [] 0
      (max least widest, breaks, c)
    | some n =>
      let indent := least + n - 1
      let (breaks, c) := blockBreaks indent (c.rest.length + 1) c []
      (indent, breaks, c)
  let (done, last, breaks, c) := blockLines folded indent (c.rest.length + 1) c [] breaks []
  let ending := (if chomp = .strip then [] else last) ++ (if chomp = .keep then breaks else [])
  return (done.reverse ++ ending, c)

end TestSkeleton.Yaml
