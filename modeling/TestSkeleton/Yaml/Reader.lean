import TestSkeleton.Document.Graph
import TestSkeleton.Document.SetOrder
import TestSkeleton.Number.Numeral
import TestSkeleton.Text.Base64
import TestSkeleton.Yaml.Merge

/-!
# Reading YAML

The values of YAML documents. Each tag of the type repository says which nodes it takes and which
value they give; other tags are refused. A document is read in rounds, the outermost collection
first: the contents of the collections of one round are read in order, scalars at once, and the
collections among them wait for the next round. So the first problem of the outermost collections
counts.
-/

namespace TestSkeleton.Yaml

open Text

/-! ### Scalars -/

private def boolOf (s : String) : Except TextProblem Value :=
  let w := s.toList.map Char.toLower
  if ["yes", "true", "on"].any (·.toList == w) then .ok (.bool true)
  else if ["no", "false", "off"].any (·.toList == w) then .ok (.bool false)
  else .error (.fault .missingKey)

private def sixties (parts : List Int) : Int := parts.foldl (fun n p => n * 60 + p) 0

private def requireNumber {α : Type} (x : Option α) : Except TextProblem α :=
  match x with
  | some a => .ok a
  | none => .error (.fault .badValue)

-- A sign in front of a scalar and the rest, without underscores. An empty scalar has no first
-- character.
private def signOf (s : String) : Except TextProblem (Bool × List Char) :=
  match s.toList.filter (· ≠ '_') with
  | [] => .error (.fault .missingIndex)
  | cs => .ok (Numeral.splitSign cs)

private def intOf (s : String) : Except TextProblem Value := do
  let (negative, cs) ← signOf s
  let sign (i : Int) : Value := .int (if negative then -i else i)
  let base (b : Nat) (cs : List Char) : Except TextProblem Value := do
    return sign (← requireNumber (Numeral.int? b (String.ofList cs)))
  match cs with
  | [] => throw (.fault .missingIndex)
  | ['0'] => return .int 0
  | '0' :: 'b' :: rest => base 2 rest
  | '0' :: 'x' :: rest => base 16 rest
  | '0' :: _ => base 8 cs
  | _ =>
    if cs.contains ':' then
      let parts ← (cs.splitOn ':').mapM fun p => requireNumber (Numeral.int? 10 (String.ofList p))
      return sign (sixties parts)
    else base 10 cs

-- The sum of the parts of a fraction in base sixty, the last part first, each addition rounded.
private def fractionSixties : Nat → Binary64 → List Binary64 → Binary64
  | _, sum, [] => sum
  | base, sum, p :: ps =>
    fractionSixties (base * 60) (sum.add (p.mul (Binary64.ofInt base))) ps

private def floatOf (s : String) : Except TextProblem Value := do
  let (negative, cs) ← signOf s
  let cs := cs.map Char.toLower
  let sign (x : Binary64) : Value := .float (if negative then x.neg else x)
  if cs = ".inf".toList then return sign (.infinite false)
  else if cs = ".nan".toList then return .float .nan
  else if cs.contains ':' then
    let parts ← (cs.splitOn ':').mapM fun p => requireNumber (Numeral.float? (String.ofList p))
    return sign (fractionSixties 1 (Binary64.zero false) parts.reverse)
  else return sign (← requireNumber (Numeral.float? (String.ofList cs)))

-- The value of a scalar of dates and times. A scalar of another form has no parts.
private def timestampOf (s : String) : Except TextProblem Value := do
  match Tag.stamp? s with
  | none => throw (.fault .missingMember)
  | some t =>
    let n (cs : List Char) : Nat := ofDigits 10 cs
    let date? := Date.ofParts? (n t.year) (n t.month) (n t.day)
    match t.time with
    | none => return .moment (.date (← requireNumber date?))
    | some (hour, minute, second, places) =>
      let micros := n ((places ++ List.replicate 6 '0').take 6)
      let offset ← match t.zone with
        | none => pure none
        | some none => pure (some 0)
        | some (some (negative, h, m)) =>
          let minutes := 60 * n h + n m
          if 1440 ≤ minutes then throw (.fault .badValue)
          pure (some (Numeral.signed negative minutes))
      let date ← requireNumber date?
      let time ← requireNumber (TimeOfDay.ofParts? (n hour) (n minute) (n second) micros)
      return .moment (.dateTime date time offset)

private def binaryOf (s : String) : Except TextProblem Value :=
  if s.toList.all (·.toNat < 0x80) then
    match base64Decode? s with
    | some bs => .ok (.bytes bs)
    | none => .error .malformed
  else .error .malformed

private def scalarValue (tag : Tag) (s : String) : Except TextProblem Value :=
  match tag with
  | .null => .ok .null
  | .bool => boolOf s
  | .int => intOf s
  | .float => floatOf s
  | .binary => binaryOf s
  | .timestamp => timestampOf s
  | .str => .ok (.text s)
  | _ => .error .malformed

/-! ### Collections -/

/-- How many mappings may stand around the text of a scalar, each as the value of a default key.
This is a limit of one environment like `Value.greatestDepth`. -/
def greatestDefaultDepth : Nat := 970

-- The text of a node that has to be a scalar. A mapping may give it as the value of its first
-- default key.
private def scalarText (nodes : Document.Nodes) : Nat → Nat → Except TextProblem String
  | 0, _ => .error (.fault .tooDeep)
  | fuel + 1, n =>
    match nodes[n]? with
    | some ⟨_, .scalar s⟩ => .ok s
    | some ⟨_, .mapping entries⟩ =>
      match entries.find? fun e => Document.tagAt nodes e.1 = .value with
      | some (_, v) => scalarText nodes fuel v
      | none => .error .malformed
    | _ => .error .malformed

private def isCollection : Tag → Bool
  | .seq | .omap | .pairs | .map | .set => true
  | _ => false

private structure Building where
  nodes : Document.Nodes
  /-- What the nodes have become so far. -/
  shapes : Array (Option Shape)
  /-- The collections whose contents are read in the next round, the last one first. -/
  waiting : List Nat
  mergeFuel : Nat

private abbrev BuildM := StateT Building (Except TextProblem)

private def setShape (n : Nat) (shape : Shape) : BuildM Unit :=
  modify fun b => { b with shapes := b.shapes.setIfInBounds n (some shape) }

-- Begins with a node, unless that is done: reads a scalar, or lets a collection wait.
private def begin_ (n : Nat) : BuildM Unit := do
  let b ← get
  if (b.shapes[n]?.getD none).isSome then return
  let tag := Document.tagAt b.nodes n
  if isCollection tag then
    setShape n (.list [])
    modify fun b => { b with waiting := n :: b.waiting }
  else if tag = .merge ∨ tag = .value ∨ tag = .other then throw .malformed
  else
    let text ← scalarText b.nodes greatestDefaultDepth n
    -- The parts of a timestamp are looked for in the node itself.
    if tag = .timestamp ∧ !(Document.entriesAt b.nodes n).isEmpty then throw (.fault .wrongKind)
    setShape n (.value (← scalarValue tag text))

private def key (n : Nat) : BuildM Value := do
  if isCollection (Document.tagAt (← get).nodes n) then throw .malformed
  begin_ n
  match (← get).shapes[n]? with
  | some (some (.value v)) => return v
  | _ => throw .malformed

private def isNaNLiteral (nodes : Document.Nodes) (n : Nat) : Bool :=
  match nodes[n]? with
  | some ⟨_, .scalar s⟩ =>
    (Numeral.splitSign (s.toList.filter (· ≠ '_'))).2.map Char.toLower == ".nan".toList
  | _ => false

-- Whether two nodes with a NaN have the same one: a node has its own, and all literals have one.
private def sameNaN (nodes : Document.Nodes) (m n : Nat) : Bool :=
  m == n || (isNaNLiteral nodes m && isNaNLiteral nodes n)

-- An entry of a mapping as far as it is read: the node of its key, the key and the node of its
-- value.
private structure KeyedEntry where
  keyNode : Nat
  key : Value
  value : Nat

private def KeyedEntry.sameKey (nodes : Document.Nodes) (a b : KeyedEntry) : Bool :=
  match a.key, b.key with
  | .float .nan, .float .nan => sameNaN nodes a.keyNode b.keyNode
  | k, l => k.sameKey l

-- Entries with one more: an equal key keeps its place and takes the new value.
private def insertKeyed (nodes : Document.Nodes) (e : KeyedEntry) :
    List KeyedEntry → List KeyedEntry
  | [] => [e]
  | e' :: rest =>
    if e'.sameKey nodes e then { e' with value := e.value } :: rest
    else e' :: insertKeyed nodes e rest

private def mappingEntries (n : Nat) : BuildM (List KeyedEntry) := do
  let b ← get
  match b.nodes[n]? with
  | some ⟨_, .mapping _⟩ =>
    let nodes ← Document.flatten b.mergeFuel b.nodes n
    set { b with nodes }
    (Document.entriesAt nodes n).foldlM (fun done (k, v) => do
      let e := KeyedEntry.mk k (← key k) v
      begin_ v
      return insertKeyed nodes e done) []
  | _ => throw .malformed

private def sequenceItems (n : Nat) : BuildM (List Nat) := do
  match (← get).nodes[n]? with
  | some ⟨_, .sequence items⟩ => return items
  | _ => throw .malformed

private def onlyEntry (n : Nat) : BuildM (Nat × Nat) := do
  match Document.entriesAt (← get).nodes n with
  | [(k, v)] =>
    begin_ k
    begin_ v
    return (k, v)
  | _ => throw .malformed

private def finish (n : Nat) : BuildM Unit := do
  match Document.tagAt (← get).nodes n with
  | .seq =>
    let items ← sequenceItems n
    items.forM begin_
    setShape n (.list items)
  | .omap | .pairs =>
    let items ← sequenceItems n
    setShape n (.pairs (← items.mapM onlyEntry))
  | .map =>
    let entries ← mappingEntries n
    setShape n (.map (entries.map fun e => (e.key, e.value)))
  | .set =>
    let entries ← mappingEntries n
    setShape n (.value (.set (Value.setOrder (entries.map (·.key)))))
  | _ => throw .malformed

-- Rounds until no collection waits. Each round but the last reads a collection.
private def rounds : Nat → BuildM Unit
  | 0 => return
  | fuel + 1 => do
    let waiting := (← get).waiting
    if waiting.isEmpty then return
    modify fun b => { b with waiting := [] }
    waiting.reverse.forM finish
    rounds fuel

/-- The value of a document. -/
def Document.value (d : Document) : Except TextProblem Value := do
  let size := d.nodes.size
  let build : BuildM Unit := do
    begin_ d.root
    rounds (size + 1)
  let (_, b) ← build.run
    { nodes := d.nodes, shapes := Array.replicate size none, waiting := [],
      mergeFuel := Document.mergeFuel d.nodes }
  let graph : Graph := b.shapes.map (·.getD (.value .null))
  return graph.value d.root

/-! ### Texts -/

/-- The number of characters that are taken in before the first token is read. -/
def firstBlock : Nat := 8192

/-- The number of characters that are taken in at a time after that. -/
def laterBlock : Nat := 4096

/-- The place from which on a text is not read if a character that may not be in it is at a place:
it is refused when its block is taken in. -/
def blockStart (place : Nat) : Nat :=
  if place < firstBlock then 0 else place - place % laterBlock

-- The value of the one document of some characters; without a document it is null.
private def valueOf (cs : List Char) : Except TextProblem Value := do
  match ← Document.ofTokens? (Token.scan cs) with
  | some d => d.value
  | none => return .null

-- Reads the part of a text before a character that is refused. Only a fault in it counts.
private def refuseAt (cs : List Char) (place : Nat) : Except TextProblem Value :=
  match Document.ofTokens? (Token.scan (cs.take (blockStart place))) with
  | .error (.fault f) => .error (.fault f)
  | _ => .error .malformed

/-- The value of the one document of a text; a text without a document is null. -/
def read (s : String) : Except TextProblem Value :=
  let cs := unifyLineEnds s.toList
  let allowed := cs.takeWhile isAllowed
  if allowed.length = cs.length then valueOf cs else refuseAt cs allowed.length

/-- The number of bytes that are decoded at a time. -/
def byteBlock : Nat := 8192

-- The text of bytes, at the end of which a character may be cut off.
private def textOfCut? (bytes : ByteArray) : Option String :=
  [0, 1, 2, 3].findSome? fun cut => String.fromUTF8? (bytes.extract 0 (bytes.size - cut))

-- The text of the blocks of bytes before the first one that is no text.
private def decodedBlocks (bytes : ByteArray) : String :=
  ((List.range (bytes.size / byteBlock + 1)).reverse.findSome? fun n =>
    textOfCut? (bytes.extract 0 (n * byteBlock))).getD ""

/-- The value of the one document of some bytes. Bytes that are no text are refused like a character
that may not be in a text. -/
def readBytes (bytes : ByteArray) : Except TextProblem Value :=
  match String.fromUTF8? bytes with
  | some s => read s
  | none =>
    let cs := unifyLineEnds (decodedBlocks bytes).toList
    refuseAt cs (cs.takeWhile isAllowed).length

end TestSkeleton.Yaml
