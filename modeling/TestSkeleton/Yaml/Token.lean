import TestSkeleton.Yaml.ScalarText

/-!
# Tokens of YAML text

A YAML text as a list of tokens. Indentation becomes tokens too: the first item or key of a block
opens a sequence or mapping, and a line that is indented less closes it. A key is known as such only
by the colon after it, so places where a key may have begun are kept until a colon, a line end or
1024 characters decide about them. When the text stops making sense the list ends with the problem.
-/

namespace TestSkeleton.Yaml

/-- A tag as written: a handle and what follows it, or the whole tag. -/
structure TagText where
  handle : Option String
  rest : String
deriving DecidableEq, Repr, Inhabited

/-- A token. -/
inductive Token where
  | versionDirective (major : Nat)
  | tagDirective (handle uri : String)
  | otherDirective
  | documentStart
  | documentEnd
  | blockSequenceStart
  | blockMappingStart
  | blockEnd
  | flowSequenceStart
  | flowSequenceEnd
  | flowMappingStart
  | flowMappingEnd
  | flowEntry
  | blockEntry
  | key
  | value
  | reference (name : String)
  | anchor (name : String)
  | tag (t : TagText)
  | scalar (plain : Bool) (text : String)
  | failed (p : TextProblem)
deriving DecidableEq, Repr, Inhabited

namespace Token

/-! ### Anchors, tags and directives -/

private def anchorName (c : Cursor) : Except TextProblem (String × Cursor) :=
  let (name, c) := c.advance.run isWordChar
  if name.isEmpty || !(isGapOrEnd c.peek || "?:,]\x7d%@\x60".toList.contains c.peek) then
    .error .malformed
  else .ok (String.ofList name, c)

private def isAddressChar (c : Char) : Bool :=
  isWordChar c || ";/?:@&=+$,_.!~*'()[]%".toList.contains c

private def percentBytes : Nat → List Char → Except TextProblem (List UInt8)
  | 0, _ => .ok []
  | fuel + 1, '%' :: a :: b :: rest =>
    if Text.isHexDigit a && Text.isHexDigit b then do
      return UInt8.ofNat (Text.ofDigits 16 [a, b]) :: (← percentBytes fuel rest)
    else .error .malformed
  | _, '%' :: _ => .error .malformed
  | _, _ => .ok []

-- An address with its percent escapes decoded; `done` holds the characters before, the last one
-- first.
private def addressRest : Nat → Cursor → List Char → Except TextProblem (List Char × Cursor)
  | 0, c, done => .ok (done, c)
  | fuel + 1, c, done =>
    if c.peek = '%' then do
      let bytes ← percentBytes (c.rest.length + 1) c.rest
      match String.fromUTF8? ⟨bytes.toArray⟩ with
      | some s => addressRest fuel (c.skip (3 * bytes.length)) (s.toList.reverse ++ done)
      | none => throw .malformed
    else if isAddressChar c.peek then addressRest fuel c.advance (c.peek :: done)
    else .ok (done, c)

private def address (c : Cursor) : Except TextProblem (String × Cursor) := do
  let (done, c) ← addressRest (c.rest.length + 1) c []
  if done.isEmpty then throw .malformed
  return (String.ofList done.reverse, c)

-- The handle of a tag: an exclamation mark, or a word between two.
private def tagHandle (c : Cursor) : Except TextProblem (String × Cursor) :=
  if c.peek ≠ '!' then .error .malformed
  else if c.peekAt 1 = ' ' then .ok ("!", c.advance)
  else
    let (word, after) := c.advance.run isWordChar
    if after.peek = '!' then .ok (String.ofList ('!' :: word ++ ['!']), after.advance)
    else .error .malformed

private def tagText (c : Cursor) : Except TextProblem (TagText × Cursor) := do
  let next := c.peekAt 1
  let (t, c) ←
    if next = '<' then do
      let (uri, c) ← address (c.skip 2)
      if c.peek ≠ '>' then throw .malformed
      pure (TagText.mk none uri, c.advance)
    else if isGapOrEnd next then pure (TagText.mk none "!", c.advance)
    else do
      let word := c.advance.rest.takeWhile (!isSpaceOrEnd ·)
      let (handle, c) ← if word.contains '!' then tagHandle c else pure ("!", c.advance)
      let (uri, c) ← address c
      pure (TagText.mk (some handle) uri, c)
  if isSpaceOrEnd c.peek then return (t, c) else throw .malformed

private def directiveNumber (c : Cursor) : Except TextProblem (Nat × Cursor) :=
  let (ds, c) := c.run fun x => '0' ≤ x && x ≤ '9'
  if ds.isEmpty then .error .malformed else .ok (Text.ofDigits 10 ds, c)

private def directive (c : Cursor) : Except TextProblem (Token × Cursor) := do
  let (name, c) := c.advance.run isWordChar
  if name.isEmpty || !isSpaceOrEnd c.peek then throw .malformed
  let (t, c) ←
    if name = "YAML".toList then do
      let (major, c) ← directiveNumber c.skipSpaces
      if c.peek ≠ '.' then throw .malformed
      let (_, c) ← directiveNumber c.advance
      if !isSpaceOrEnd c.peek then throw .malformed
      pure (Token.versionDirective major, c)
    else if name = "TAG".toList then do
      let (handle, c) ← tagHandle c.skipSpaces
      if c.peek ≠ ' ' then throw .malformed
      let (uri, c) ← address c.skipSpaces
      if !isSpaceOrEnd c.peek then throw .malformed
      pure (Token.tagDirective handle uri, c)
    else pure (Token.otherDirective, (c.run (!isBreak ·)).2)
  let c := c.skipSpaces.skipComment
  if isBreakOrEnd c.peek then return (t, c.lineBreak.2) else throw .malformed

end Token

/-! ### The lexer -/

/-- A place where a key may have begun. -/
structure PossibleKey where
  /-- The number of tokens before the key. -/
  tokenNumber : Nat
  /-- Whether the indentation allows nothing but a key here. -/
  required : Bool
  start : Cursor

/-- The state of the lexer between two tokens. -/
structure Lexer where
  cursor : Cursor
  /-- The tokens so far, the last one first. -/
  tokens : List Token
  tokenCount : Nat
  /-- The number of open brackets and braces. -/
  flowLevel : Nat
  /-- The column of the innermost block, -1 outside of all. -/
  indent : Int
  /-- The columns of the enclosing blocks. -/
  indents : List Int
  /-- Whether a key may begin at the cursor. -/
  keyAllowed : Bool
  /-- The possible keys, at most one for each flow level. -/
  possibleKeys : List (Nat × PossibleKey)

namespace Lexer

/-- The lexer at the start of a text. -/
def start (cs : List Char) : Lexer := ⟨Cursor.start cs, [], 0, 0, -1, [], true, []⟩

private def push (l : Lexer) (t : Token) : Lexer :=
  { l with tokens := t :: l.tokens, tokenCount := l.tokenCount + 1 }

private def insertAt (l : Lexer) (n : Nat) (t : Token) : Lexer :=
  let later := l.tokenCount - n
  { l with
    tokens := l.tokens.take later ++ t :: l.tokens.drop later
    tokenCount := l.tokenCount + 1 }

private def take (l : Lexer) (t : Token) (length : Nat) : Lexer :=
  { l with cursor := l.cursor.skip length }.push t

-- Whether a possible key lies on an earlier line or too far back.
private def isStale (l : Lexer) (k : PossibleKey) : Bool :=
  k.start.line != l.cursor.line || 1024 < l.cursor.index - k.start.index

-- Forgets the possible keys that lie on an earlier line or too far back. A required one is then
-- without its colon.
private def dropStaleKeys (l : Lexer) : Except TextProblem Lexer :=
  if l.possibleKeys.any fun k => l.isStale k.2 && k.2.required then .error .malformed
  else .ok { l with possibleKeys := l.possibleKeys.filter fun k => !l.isStale k.2 }

private def dropKey (l : Lexer) : Except TextProblem Lexer :=
  if l.possibleKeys.any fun k => k.1 == l.flowLevel && k.2.required then .error .malformed
  else .ok { l with possibleKeys := l.possibleKeys.filter (·.1 != l.flowLevel) }

-- Notes that a key may begin at the cursor, if one is allowed here.
private def noteKey (l : Lexer) : Except TextProblem Lexer := do
  if !l.keyAllowed then return l
  let required := l.flowLevel == 0 && l.indent == (l.cursor.column : Int)
  let l ← l.dropKey
  return { l with
    possibleKeys := (l.flowLevel, ⟨l.tokenCount, required, l.cursor⟩) :: l.possibleKeys }

private def closeBlocks (column : Int) : List Int → Lexer → Lexer
  | [], l => l
  | outer :: rest, l =>
    if l.flowLevel = 0 ∧ column < l.indent then
      closeBlocks column rest ({ l with indent := outer, indents := rest }.push .blockEnd)
    else l

private def unwind (l : Lexer) (column : Int) : Lexer := closeBlocks column l.indents l

-- Opens a block at a column that is indented more than the current block.
private def openBlock? (l : Lexer) (column : Nat) : Option Lexer :=
  if l.indent < column then
    some { l with indents := l.indent :: l.indents, indent := column }
  else none

-- Opens a block at the cursor, if it is indented more, with a token.
private def openBlockHere (l : Lexer) (t : Token) : Lexer :=
  match l.openBlock? l.cursor.column with
  | some l => l.push t
  | none => l

-- The cursor at the next token: after blanks, comments and line breaks. Outside of brackets a key
-- may begin on a new line.
private def toToken : Nat → Lexer → Lexer
  | 0, l => l
  | fuel + 1, l =>
    let c := l.cursor.skipSpaces.skipComment
    if isBreak c.peek then
      toToken fuel { l with
        cursor := c.lineBreak.2, keyAllowed := l.keyAllowed || l.flowLevel == 0 }
    else { l with cursor := c }

-- Ends all blocks and keys before a directive or document marker.
private def beforeDocument (l : Lexer) : Except TextProblem Lexer := do
  let l ← (l.unwind (-1)).dropKey
  return { l with keyAllowed := false }

-- An indicator that may begin a key, read by a scanner of its own.
private def word (l : Lexer) (scan : Cursor → Except TextProblem (Token × Cursor)) :
    Except TextProblem Lexer := do
  let l ← l.noteKey
  let (t, c) ← scan l.cursor
  return { l with keyAllowed := false, cursor := c }.push t

private def openFlow (l : Lexer) (t : Token) : Except TextProblem Lexer := do
  let l ← l.noteKey
  return { l with flowLevel := l.flowLevel + 1, keyAllowed := true }.take t 1

private def closeFlow (l : Lexer) (t : Token) : Except TextProblem Lexer := do
  let l ← l.dropKey
  return { l with flowLevel := l.flowLevel - 1, keyAllowed := false }.take t 1

private def blockEntry (l : Lexer) : Except TextProblem Lexer := do
  if l.flowLevel == 0 && !l.keyAllowed then throw .malformed
  let l := if l.flowLevel = 0 then l.openBlockHere .blockSequenceStart else l
  let l ← { l with keyAllowed := true }.dropKey
  return l.take .blockEntry 1

private def explicitKey (l : Lexer) : Except TextProblem Lexer := do
  if l.flowLevel == 0 && !l.keyAllowed then throw .malformed
  let l := if l.flowLevel = 0 then l.openBlockHere .blockMappingStart else l
  let l ← { l with keyAllowed := l.flowLevel == 0 }.dropKey
  return l.take .key 1

-- A colon that begins a value. If a key may have begun on this level, it did.
private def value (l : Lexer) : Except TextProblem Lexer := do
  match l.possibleKeys.find? (·.1 == l.flowLevel) with
  | some (_, k) =>
    let l := { l with possibleKeys := l.possibleKeys.filter (·.1 != l.flowLevel) }
    let l := l.insertAt k.tokenNumber .key
    let l := if l.flowLevel = 0 then
        match l.openBlock? k.start.column with
        | some l => l.insertAt k.tokenNumber .blockMappingStart
        | none => l
      else l
    return { l with keyAllowed := false }.take .value 1
  | none =>
    if l.flowLevel == 0 && !l.keyAllowed then throw .malformed
    let l := if l.flowLevel = 0 then l.openBlockHere .blockMappingStart else l
    let l ← { l with keyAllowed := l.flowLevel == 0 }.dropKey
    return l.take .value 1

private def block (l : Lexer) (folded : Bool) : Except TextProblem Lexer := do
  let l ← { l with keyAllowed := true }.dropKey
  let (cs, c) ← blockScalar folded l.indent l.cursor
  return { l with cursor := c }.push (.scalar false (String.ofList cs))

private def quotes (l : Lexer) (double : Bool) : Except TextProblem Lexer :=
  l.word fun c => do
    let (cs, c) ← quotedScalar double c
    return (.scalar false (String.ofList cs), c)

private def plain (l : Lexer) : Except TextProblem Lexer := do
  let l ← l.noteKey
  let s := plainScalar (l.flowLevel != 0) l.indent l.cursor
  return { l with keyAllowed := s.lineEnded, cursor := s.after }.push
    (.scalar true (String.ofList s.chars))

-- Whether a plain scalar may begin with a character, given the one after it.
private def startsPlain (l : Lexer) (x next : Char) : Bool :=
  !(isGapOrEnd x || "-?:,[]\x7b\x7d#&*!|>'\"%@\x60".toList.contains x)
    || (!isGapOrEnd next && (x == '-' || (l.flowLevel == 0 && (x == '?' || x == ':'))))

private def token (l : Lexer) : Except TextProblem Lexer :=
  let c := l.cursor
  let x := c.peek
  let next := c.peekAt 1
  let inFlow := l.flowLevel != 0
  if x == '%' && c.column == 0 then do
    let l ← l.beforeDocument
    let (t, c) ← Token.directive l.cursor
    return { l with cursor := c }.push t
  else if c.column == 0 && c.atMarker '-' then do return (← l.beforeDocument).take .documentStart 3
  else if c.column == 0 && c.atMarker '.' then do return (← l.beforeDocument).take .documentEnd 3
  else if x == '[' then l.openFlow .flowSequenceStart
  else if x == '\x7b' then l.openFlow .flowMappingStart
  else if x == ']' then l.closeFlow .flowSequenceEnd
  else if x == '\x7d' then l.closeFlow .flowMappingEnd
  else if x == ',' then do return (← { l with keyAllowed := true }.dropKey).take .flowEntry 1
  else if x == '-' && isGapOrEnd next then l.blockEntry
  else if x == '?' && (inFlow || isGapOrEnd next) then l.explicitKey
  else if x == ':' && (inFlow || isGapOrEnd next) then l.value
  else if x == '*' then l.word fun c => do
    let (n, c) ← Token.anchorName c
    return (.reference n, c)
  else if x == '&' then l.word fun c => do
    let (n, c) ← Token.anchorName c
    return (.anchor n, c)
  else if x == '!' then l.word fun c => do
    let (t, c) ← Token.tagText c
    return (.tag t, c)
  else if x == '|' && !inFlow then l.block false
  else if x == '>' && !inFlow then l.block true
  else if x == '\'' then l.quotes false
  else if x == '"' then l.quotes true
  else if l.startsPlain x next then l.plain
  else .error .malformed

-- One step: the tokens that close blocks and the next token, or the end of the text.
private def step (l : Lexer) : Except TextProblem (Lexer × Bool) := do
  let l ← (toToken (l.cursor.rest.length + 1) l).dropStaleKeys
  let l := l.unwind l.cursor.column
  if l.cursor.rest.isEmpty then return (← (l.unwind (-1)).dropKey, true)
  else return (← l.token, false)

-- The tokens that come before a problem. A token that may begin a key is known only when the text
-- after it is, so a problem there comes first.
private def tokensBefore (l : Lexer) (p : TextProblem) : List Token :=
  let undecided := l.possibleKeys.filter fun k => !l.isStale k.2
  let known := undecided.foldl (fun n k => min n k.2.tokenNumber) l.tokenCount
  (.failed p :: l.tokens.drop (l.tokenCount - known)).reverse

-- All tokens from a state on. Every step but the last takes a character.
private def run : Nat → Lexer → List Token
  | 0, l => (.failed .malformed :: l.tokens).reverse
  | fuel + 1, l =>
    match l.step with
    | .error p => l.tokensBefore p
    | .ok (l, true) => l.tokens.reverse
    | .ok (l, false) => run fuel l

end Lexer

/-- The tokens of a text. A byte-order mark in front is no part of it. -/
def Token.scan (cs : List Char) : List Token :=
  let start := Lexer.start cs
  let start := if cs.head? = some '\ufeff' then { start with cursor := start.cursor.advance } else start
  start.run (cs.length + 2)

end TestSkeleton.Yaml
