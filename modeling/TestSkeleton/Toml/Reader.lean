import TestSkeleton.Toml.Lexeme

/-!
# Reading TOML

Documents of TOML 1.0. A table is opened by its header once, by dotted keys only within one
section, and never after an inline table or array has fixed it; an array of tables grows by headers
in double brackets. A whole number with too many digits and values nested too deeply are faults; of
several problems the first in the text counts.
-/

namespace TestSkeleton.Toml

open TextProblem (require)

/-- The entries of a table. -/
abbrev Entries := List (Value × Value)

/-! ### Tables -/

/-- Entries with a value under a text key. -/
def setEntry (es : Entries) (key : String) (v : Value) : Entries :=
  Value.insertEntry es (.text key) v

/-- Changes the table at a path of keys, making the tables on the way that are missing. An array of
tables on the way stands for its last table, unless `throughArrays` is false. -/
def changeTable? (throughArrays : Bool) (change : Entries → Option Entries) :
    List String → Entries → Option Entries
  | [], es => change es
  | k :: ks, es => do
    match Value.get? es k with
    | none => return setEntry es k (.map (← changeTable? throughArrays change ks []))
    | some (.map sub) => return setEntry es k (.map (← changeTable? throughArrays change ks sub))
    | some (.list xs) =>
      match throughArrays, xs.reverse with
      | true, .map sub :: before =>
        return setEntry es k
          (.list (.map (← changeTable? throughArrays change ks sub) :: before).reverse)
      | _, _ => none
    | some _ => none

/-- Adds a key that is not there yet. -/
def addMember? (key : String) (v : Value) (es : Entries) : Option Entries :=
  if (Value.get? es key).isSome then none else some (setEntry es key v)

/-- Adds a table to the array of tables under a key. -/
def growArray? (key : String) (es : Entries) : Option Entries :=
  match Value.get? es key with
  | none => some (setEntry es key (.list [.map []]))
  | some (.list xs) => some (setEntry es key (.list (xs ++ [.map []])))
  | some _ => none

/-! ### Values -/

-- The text after white space, line ends and comments, as between the items of an array.
private def skipBetween? : Nat → List Char → Option (List Char)
  | 0, cs => some cs
  | fuel + 1, cs => do
    let rest ← skipComment? (cs.dropWhile isSpaceOrEnd)
    if rest.length = cs.length then return cs else skipBetween? fuel rest

private def between? (cs : List Char) : Option (List Char) := skipBetween? (cs.length + 1) cs

private def under (path : List String) (others : List (List String)) : Bool :=
  others.any (·.isPrefixOf path)

private def isCollection : Value → Bool
  | .map _ | .list _ => true
  | _ => false

/-- How much room there is for values inside values, a limit of one environment like
`Value.greatestDepth`. -/
def greatestRoom : Nat := 986

/-- The room that an array takes. -/
def arrayRoom : Nat := 2

/-- The room that an inline table takes. -/
def tableRoom : Nat := 3

private def inside (taken room : Nat) : Except TextProblem Nat :=
  if room < taken then .error (.fault .tooDeep) else .ok (room - taken)

mutual

/-- A value and the rest. The fuel bounds the number of values and pairs that are begun. -/
def value : Nat → Nat → List Char → Except TextProblem (Value × List Char)
  | 0, _, _ => .error .malformed
  | fuel + 1, room, cs =>
    let text (r : Option (List Char × List Char)) : Except TextProblem (Value × List Char) :=
      require (r.map fun r => (.text (String.ofList r.1), r.2))
    match cs with
    | '"' :: '"' :: '"' :: rest => text (multilineString? '"' rest)
    | '"' :: rest => text (basicString? rest)
    | '\'' :: '\'' :: '\'' :: rest => text (multilineString? '\'' rest)
    | '\'' :: rest => text (literalString? rest)
    | '[' :: rest => do
      let room ← inside arrayRoom room
      match ← require (between? rest) with
      | ']' :: rest => return (.list [], rest)
      | rest => items fuel room [] rest
    | '\x7b' :: rest => do
      let room ← inside tableRoom room
      match skipSpaces rest with
      | '\x7d' :: rest => return (.map [], rest)
      | rest => pairs fuel room [] [] rest
    | _ =>
      match afterWord? "true" cs, afterWord? "false" cs with
      | some rest, _ => .ok (.bool true, rest)
      | _, some rest => .ok (.bool false, rest)
      | none, none =>
        match dateOrDateTime? cs, time? cs with
        | some (m, rest), _ => require (m.map fun m => (.moment m, rest))
        | none, some (t, rest) => .ok (.moment (.time t), rest)
        | none, none => number cs

/-- The items of an array up to its bracket; `done` holds the ones before, the last one first. -/
def items : Nat → Nat → List Value → List Char → Except TextProblem (Value × List Char)
  | 0, _, _, _ => .error .malformed
  | fuel + 1, room, done, cs => do
    let (v, rest) ← value fuel room cs
    match ← require (between? rest) with
    | ']' :: rest => return (.list (v :: done).reverse, rest)
    | ',' :: rest =>
      match ← require (between? rest) with
      | ']' :: rest => return (.list (v :: done).reverse, rest)
      | rest => items fuel room (v :: done) rest
    | _ => throw .malformed

/-- The entries of an inline table up to its brace; `fixed` holds the paths of its inline tables and
arrays. -/
def pairs : Nat → Nat → Entries → List (List String) → List Char →
    Except TextProblem (Value × List Char)
  | 0, _, _, _, _ => .error .malformed
  | fuel + 1, room, es, fixed, cs => do
    let (key, v, rest) ← pair fuel room cs
    if under key fixed then throw .malformed
    let es ← require (changeTable? false (addMember? (key.getLastD "") v) key.dropLast es)
    let fixed := if isCollection v then key :: fixed else fixed
    match skipSpaces rest with
    | '\x7d' :: rest => return (.map es, rest)
    | ',' :: rest => pairs fuel room es fixed (skipSpaces rest)
    | _ => throw .malformed

/-- A key with its value, and the rest. -/
def pair : Nat → Nat → List Char → Except TextProblem (List String × Value × List Char)
  | 0, _, _ => .error .malformed
  | fuel + 1, room, cs => do
    let (key, rest) ← require (key? cs)
    match rest with
    | '=' :: rest =>
      let (v, rest) ← value fuel room (skipSpaces rest)
      return (key, v, rest)
    | _ => throw .malformed

end

/-! ### Documents -/

/-- A document that is being read, as far as it has been read. -/
structure Document where
  entries : Entries
  /-- The path of the section that is being read. -/
  section_ : List String
  /-- The paths of tables that no header may open again. -/
  opened : List (List String)
  /-- Such paths from the current section, which count from the next header on. -/
  pending : List (List String)
  /-- The paths of inline tables and arrays. -/
  fixed : List (List String)

/-- A document with the paths of its current section counting from now on. -/
def Document.settle (d : Document) : Document :=
  { d with opened := d.pending ++ d.opened, pending := [] }

/-- Opens a table by a header. -/
def Document.openTable? (d : Document) (path : List String) : Option Document := do
  if d.opened.contains path || under path d.fixed then none else
  let entries ← changeTable? true some path d.entries
  return { d with entries, section_ := path, opened := path :: d.opened }

/-- Adds a table to an array of tables by a header. What was known about the tables below it
concerned the table before. -/
def Document.growTables? (d : Document) (path : List String) : Option Document := do
  if under path d.fixed then none else
  let keep := fun p => !path.isPrefixOf p
  let entries ← changeTable? true (growArray? (path.getLastD "")) path.dropLast d.entries
  return { d with
    entries, section_ := path, opened := path :: d.opened.filter keep, fixed := d.fixed.filter keep }

-- The beginnings of a path, the shortest first, without the whole path.
private def properStarts (path : List String) : List (List String) :=
  (List.range path.length).drop 1 |>.map fun n => path.take n

/-- Adds a value under a key of the current section. -/
def Document.add? (d : Document) (key : List String) (v : Value) : Option Document := do
  let starts := (properStarts key).map (d.section_ ++ ·)
  if starts.any d.opened.contains then none else
  let parent := d.section_ ++ key.dropLast
  if under parent d.fixed then none else
  let entries ← changeTable? true (addMember? (key.getLastD "") v) parent d.entries
  return { d with
    entries
    pending := starts ++ d.pending
    fixed := if isCollection v then (d.section_ ++ key) :: d.fixed else d.fixed }

/-- A header up to its closing brackets, and the document with its table. -/
def header? (closing : String) (open? : List String → Option Document) (cs : List Char) :
    Option (Document × List Char) := do
  let (path, rest) ← key? (skipSpaces cs)
  let d ← open? path
  return (d, ← afterWord? closing rest)

/-- A header or a pair, and the rest. -/
def statement (d : Document) (cs : List Char) :
    Except TextProblem (Document × List Char) :=
  match cs with
  | '[' :: '[' :: rest => require (header? "]]" d.settle.growTables? rest)
  | '[' :: rest => require (header? "]" d.settle.openTable? rest)
  | _ => do
    let (key, v, rest) ← pair (cs.length + 1) greatestRoom cs
    return (← require (d.add? key v), rest)

/-- The lines of a document. The fuel bounds their number. -/
def lines : Nat → Document → List Char → Except TextProblem Document
  | 0, _, _ => .error .malformed
  | fuel + 1, d, cs => do
    let cs := skipSpaces cs
    let (d, rest) ←
      match cs with
      | [] | '\n' :: _ | '#' :: _ => pure (d, cs)
      | _ => statement d cs
    match ← require (skipComment? (skipSpaces rest)) with
    | [] => return d
    | '\n' :: rest => lines fuel d rest
    | _ => throw .malformed

private def dropReturns : List Char → List Char
  | [] => []
  | '\r' :: '\n' :: rest => '\n' :: dropReturns rest
  | c :: rest => c :: dropReturns rest

/-- The entries of the document that a text spells. -/
def read (s : String) : Except TextProblem Entries := do
  let cs := dropReturns s.toList
  return (← lines (cs.length + 1) ⟨[], [], [], [], []⟩ cs).entries

end TestSkeleton.Toml
