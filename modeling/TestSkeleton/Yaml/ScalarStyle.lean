import TestSkeleton.Text.Quoted
import TestSkeleton.Yaml.Page
import TestSkeleton.Yaml.Tag

/-!
# Styles of scalars

A text is written plain where it then reads as the same text, in single quotes where these hold it,
and else in double quotes, where every character beyond printable ASCII is escaped. A long text goes
on in the next line at a blank, in double quotes at any place.
-/

namespace TestSkeleton.Yaml

/-- The column after which a scalar goes on in the next line. -/
def lineWidth : Nat := 80

/-- The blanks that a scalar is indented more than what it belongs to. -/
def indentWidth : Nat := 2

/-- How a scalar is written. -/
inductive ScalarStyle where
  | plain
  | single
  | double
deriving DecidableEq, Repr, Inhabited

namespace ScalarStyle

/-! ### What a text has in it -/

/-- Whether a character needs no escape: printable ASCII, or a line end. -/
def isCommon (c : Char) : Bool := c == '\n' || (0x20 ≤ c.toNat && c.toNat ≤ 0x7e)

private def atGap (cs : List Char) : Bool := isGapOrEnd (cs.headD '\x00') || cs.head? == some '\r'

-- Whether a text has a mark after its first character: a colon before a gap, or a number sign after
-- one.
private def hasInnerMark : Char → List Char → Bool
  | _, [] => false
  | before, c :: rest =>
    (c == ':' && atGap rest) || (c == '#' && atGap [before]) || hasInnerMark c rest

private def startsWithMark : List Char → Bool
  | [] => false
  | c :: rest =>
    "#,[]\x7b\x7d&*!|>'\"%@\x60".toList.contains c
      || ((c == '?' || c == ':' || c == '-') && atGap rest)

-- Whether a text looks like the beginning or the end of a document.
private def startsWithMarker (cs : List Char) : Bool :=
  "---".toList.isPrefixOf cs || "...".toList.isPrefixOf cs

private def hasPair (p : Char → Char → Bool) : List Char → Bool
  | a :: b :: rest => p a b || hasPair p (b :: rest)
  | _ => false

private def hasOuterGap (cs : List Char) : Bool :=
  let isGap (c : Char) : Bool := c == ' ' || c == '\n'
  cs.head?.any isGap || cs.getLast?.any isGap

/-- Whether a text goes over several lines; other line ends than the common one count too. -/
def isMultiline (cs : List Char) : Bool :=
  cs.any fun c => c == '\n' || c == '\x85' || c == '\u2028' || c == '\u2029'

/-- Whether a text may be in single quotes: all characters are common, and no blank is next to a
line end. -/
def fitsSingle (cs : List Char) : Bool :=
  cs.all isCommon
    && !hasPair (fun a b => (a == '\n' && b == ' ') || (a == ' ' && b == '\n')) cs

/-- Whether a text may be plain. -/
def fitsPlain (cs : List Char) : Bool :=
  fitsSingle cs && !isMultiline cs && !hasOuterGap cs && !startsWithMark cs && !startsWithMarker cs
    && !hasInnerMark (cs.headD ' ') cs.tail

/-- The style of a text. A key is on one line. -/
def ofText (asKey : Bool) (s : String) : ScalarStyle :=
  let cs := s.toList
  if Tag.ofPlain s = .str && fitsPlain cs then .plain
  else if fitsSingle cs && !(asKey && isMultiline cs) then .single
  else .double

/-! ### Writing -/

-- The kinds of characters that stay together in a line: line ends, blanks and all others.
private def runKind (c : Char) : Nat := if c = '\n' then 0 else if c = ' ' then 1 else 2

private def runs (cs : List Char) : List (List Char) :=
  cs.splitBy fun a b => runKind a == runKind b

private def breaksAt (p : Page) (run : List Char) : Bool :=
  run == [' '] && lineWidth < p.column

/-- Writes a text plain; with `column`, it may go on in the next line there. -/
def writePlain (p : Page) (column : Option Nat) (s : String) : Page :=
  (runs s.toList).foldl (fun p run =>
    match column with
    | some column => if breaksAt p run then p.turn column else p.put run
    | none => p.put run) (p.mark "")

-- The runs of a text in single quotes; a blank at either end stays in its line.
private def singleRuns (column : Option Nat) : Bool → Page → List (List Char) → Page
  | _, p, [] => p
  | first, p, run :: rest =>
    let p :=
      if run.head? = some '\n' then
        let p := run.foldl (fun p _ => p.endLine) p.endLine
        p.indentTo (column.getD 0)
      else match column with
        | some column =>
          if !first && !rest.isEmpty && breaksAt p run then p.indentTo column
          else p.put (doubled run)
        | none => p.put (doubled run)
    singleRuns column false p rest
where
  /-- Characters with every quote written twice. -/
  doubled (cs : List Char) : List Char := cs.flatMap fun c => if c = '\'' then [c, c] else [c]

/-- Writes a text in single quotes. -/
def writeSingle (p : Page) (column : Option Nat) (s : String) : Page :=
  (singleRuns column true (p.mark "'") (runs s.toList)).attach "'"

private def escapeLetter? : Char → Option Char
  | '\x00' => some '0'
  | '\x07' => some 'a'
  | '\x08' => some 'b'
  | '\t' => some 't'
  | '\n' => some 'n'
  | '\x0b' => some 'v'
  | '\x0c' => some 'f'
  | '\r' => some 'r'
  | '\x1b' => some 'e'
  | '"' => some '"'
  | '\\' => some '\\'
  | '\x85' => some 'N'
  | '\xa0' => some '_'
  | '\u2028' => some 'L'
  | '\u2029' => some 'P'
  | _ => none

/-- The escape of a character in double quotes, with upper-case digits; none for a character that
stands for itself. -/
def escape? (c : Char) : Option (List Char) :=
  match escapeLetter? c with
  | some letter => some ['\\', letter]
  | none =>
    if isCommon c then none
    else match Text.numericEscape c with
      | backslash :: mark :: digits => some (backslash :: mark :: digits.map Char.toUpper)
      | cs => some cs

-- Goes on in the next line behind a backslash. A blank there needs a backslash of its own.
private def continueAt (p : Page) (column : Nat) (next : Option Char) : Page :=
  let p := (p.put ['\\']).turn column
  if next = some ' ' then p.put ['\\'] else p

-- The characters of a text in double quotes; `word` holds those that are not written yet, the last
-- one first. A line ends before a blank, after an escape, or before the character after one.
private def doubleRest (column : Option Nat) : Bool → List Char → Page → List Char → Page
  | _, word, p, [] => p.put word.reverse
  | first, word, p, c :: rest =>
    let mayBreak := !first && !rest.isEmpty
    match escape? c, column with
    | some escape, column =>
      let p := (p.put word.reverse).put escape
      match column with
      | some column =>
        let p := if mayBreak && lineWidth + 1 < p.column then continueAt p column rest.head? else p
        doubleRest (some column) false [] p rest
      | none => doubleRest none false [] p rest
    | none, some column =>
      if mayBreak && (c == ' ' || word.isEmpty) && lineWidth < p.column + word.length then
        doubleRest (some column) false [c] (continueAt (p.put word.reverse) column (some c)) rest
      else doubleRest (some column) false (c :: word) p rest
    | none, none => doubleRest none false (c :: word) p rest

/-- Writes a text in double quotes. -/
def writeDouble (p : Page) (column : Option Nat) (s : String) : Page :=
  (doubleRest column true [] (p.mark "\"") s.toList).attach "\""

/-- Writes a text in a style. -/
def write (style : ScalarStyle) (p : Page) (column : Option Nat) (s : String) : Page :=
  match style with
  | plain => writePlain p column s
  | single => writeSingle p column s
  | double => writeDouble p column s

end ScalarStyle
end TestSkeleton.Yaml
