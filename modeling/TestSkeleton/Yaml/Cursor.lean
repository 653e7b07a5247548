import TestSkeleton.Fault

/-!
# Positions in a YAML text

A cursor is the rest of a text with the line and column it starts at. Line ends are unified before,
so no carriage return is among the line breaks. The end of the text looks like a NUL, which no
YAML text contains.
-/

namespace TestSkeleton.Yaml

/-- Whether a character may stand in a YAML text. -/
def isAllowed (c : Char) : Bool :=
  let n := c.toNat
  n == 0x09 || n == 0x0a || n == 0x0d || (0x20 ≤ n && n ≤ 0x7e) || n == 0x85
    || (0xa0 ≤ n && n ≤ 0xd7ff) || (0xe000 ≤ n && n ≤ 0xfffd) || 0x10000 ≤ n

/-- Whether a character ends a line. -/
def isBreak (c : Char) : Bool := c == '\n' || c == '\x85' || c == '\u2028' || c == '\u2029'

/-- Whether a character ends a line or the text. -/
def isBreakOrEnd (c : Char) : Bool := isBreak c || c == '\x00'

/-- Whether a character is a blank or ends a line or the text. -/
def isSpaceOrEnd (c : Char) : Bool := isBreakOrEnd c || c == ' '

/-- Whether a character is a blank, a tab, or ends a line or the text. -/
def isGapOrEnd (c : Char) : Bool := isSpaceOrEnd c || c == '\t'

/-- Whether a character may stand in the name of an anchor, a tag handle or a directive. -/
def isWordChar (c : Char) : Bool :=
  ('0' ≤ c && c ≤ '9') || ('A' ≤ c && c ≤ 'Z') || ('a' ≤ c && c ≤ 'z') || c == '-' || c == '_'

/-- A place in a text. -/
structure Cursor where
  rest : List Char
  index : Nat
  line : Nat
  column : Nat
deriving Repr, Inhabited

namespace Cursor

/-- The start of a text. -/
def start (cs : List Char) : Cursor := ⟨cs, 0, 0, 0⟩

/-- The character some places ahead. -/
def peekAt (c : Cursor) (k : Nat) : Char := (c.rest.drop k).headD '\x00'

/-- The character at the cursor. -/
def peek (c : Cursor) : Char := c.rest.headD '\x00'

/-- The cursor after one character. A byte-order mark takes no column. -/
def advance (c : Cursor) : Cursor :=
  match c.rest with
  | [] => c
  | x :: rest =>
    if isBreak x then ⟨rest, c.index + 1, c.line + 1, 0⟩
    else ⟨rest, c.index + 1, c.line, if x = '\ufeff' then c.column else c.column + 1⟩

/-- The cursor after some characters. -/
def skip (c : Cursor) : Nat → Cursor
  | 0 => c
  | n + 1 => c.advance.skip n

/-- The characters of a class from the cursor on, and the cursor after them. -/
def run (c : Cursor) (p : Char → Bool) : List Char × Cursor :=
  let xs := c.rest.takeWhile p
  (xs, c.skip xs.length)

/-- The cursor after blanks. -/
def skipSpaces (c : Cursor) : Cursor := (c.run (· == ' ')).2

/-- The cursor after a comment, if one starts here. -/
def skipComment (c : Cursor) : Cursor :=
  if c.peek = '#' then (c.run (!isBreak ·)).2 else c

/-- A line break, read as the character it stands for, and the cursor after it. -/
def lineBreak (c : Cursor) : List Char × Cursor :=
  let x := c.peek
  if x = '\n' ∨ x = '\x85' then (['\n'], c.advance)
  else if x = '\u2028' ∨ x = '\u2029' then ([x], c.advance)
  else ([], c)

/-- Whether a marker of three equal characters, which begins or ends a document, stands here. -/
def atMarker (c : Cursor) (x : Char) : Bool :=
  c.peek == x && c.peekAt 1 == x && c.peekAt 2 == x && isGapOrEnd (c.peekAt 3)

/-- Whether a document begins or ends here. -/
def atAnyMarker (c : Cursor) : Bool := c.atMarker '-' || c.atMarker '.'

end Cursor
end TestSkeleton.Yaml
