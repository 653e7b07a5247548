import TestSkeleton.Yaml.Tag
import TestSkeleton.Yaml.Token

/-!
# Nodes of a YAML document

A document is a table of nodes: scalars, sequences and mappings with their tags. A collection names
the nodes in it by their numbers, so that several collections can share a node, as aliases ask for,
and a collection can contain itself.
-/

namespace TestSkeleton.Yaml

/-- What a node is made of. -/
inductive Content where
  | scalar (text : String)
  | sequence (items : List Nat)
  | mapping (entries : List (Nat × Nat))
deriving Inhabited, Repr

/-- A node of a document. -/
structure Node where
  tag : Tag
  content : Content
deriving Inhabited, Repr

/-- The node that stands where nothing is written. -/
def Node.empty : Node := ⟨.null, .scalar ""⟩

/-- A document: its nodes by number, and the number of the outermost one. -/
structure Document where
  nodes : Array Node
  root : Nat
deriving Inhabited, Repr

/-- How deeply the collections of a document may be nested, a limit of one environment like
`Value.greatestDepth`. -/
def Document.greatestDepth : Nat := 488

/-- What is known while a document is read: the tokens that are left, the nodes so far, the numbers
of the nodes with an anchor, and the addresses of the tag handles. -/
structure Reading where
  tokens : List Token
  nodes : Array Node
  anchors : List (String × Nat)
  handles : List (String × String)

namespace Reading

/-- The tag handles of every document. -/
def commonHandles : List (String × String) := [("!", "!"), ("!!", Tag.repository)]

private def problem (r : Reading) : TextProblem :=
  match r.tokens with
  | .failed p :: _ => p
  | _ => .malformed

private def peek (r : Reading) : Token := r.tokens.headD (.failed .malformed)

private def drop (r : Reading) : Reading := { r with tokens := r.tokens.tail }

private def add (r : Reading) (anchor : Option String) (n : Node) : Nat × Reading :=
  let number := r.nodes.size
  let anchors := match anchor with
    | some a => (a, number) :: r.anchors
    | none => r.anchors
  (number, { r with nodes := r.nodes.push n, anchors })

private def addEmpty (r : Reading) : Nat × Reading := r.add none .empty

private def fill (r : Reading) (number : Nat) (content : Content) : Reading :=
  { r with nodes := r.nodes.modify number fun n => { n with content } }

private def checkFresh (r : Reading) (anchor : Option String) : Except TextProblem Unit :=
  match anchor with
  | some a => if (r.anchors.lookup a).isSome then .error .malformed else .ok ()
  | none => .ok ()

private structure Properties where
  anchor : Option String
  tag : Option TagText

-- An anchor and a tag, in either order, or one of them, or neither. Behind the first of them the
-- other one is looked for.
private def properties (r : Reading) : Except TextProblem (Properties × Reading) :=
  match r.tokens with
  | .anchor _ :: .failed p :: _ | .tag _ :: .failed p :: _ => .error p
  | .anchor a :: .tag t :: rest | .tag t :: .anchor a :: rest =>
    .ok (⟨some a, some t⟩, { r with tokens := rest })
  | .anchor a :: rest => .ok (⟨some a, none⟩, { r with tokens := rest })
  | .tag t :: rest => .ok (⟨none, some t⟩, { r with tokens := rest })
  | _ => .ok (⟨none, none⟩, r)

private def tagAddress (r : Reading) : Option TagText → Except TextProblem (Option String)
  | none => .ok none
  | some ⟨none, rest⟩ => .ok (some rest)
  | some ⟨some h, rest⟩ =>
    match r.handles.lookup h with
    | some a => .ok (some (a ++ rest))
    | none => .error .malformed

-- The tag of a scalar: the one it is given, or by its form if it is plain or marked `!`.
private def scalarTag (address : Option String) (plain : Bool) (text : String) : Tag :=
  match address with
  | none => if plain then Tag.ofPlain text else .str
  | some "!" => Tag.ofPlain text
  | some a => Tag.ofAddress a

-- The tag of a collection: the one it is given, or the usual one of its kind.
private def collectionTag (address : Option String) (usual : Tag) : Tag :=
  match address with
  | none | some "!" => usual
  | some a => Tag.ofAddress a

private inductive Place where
  | flow
  | block
  | blockOrEntries
deriving DecidableEq

private def close {α : Type} (r : Reading) (t : Token) (result : α) :
    Except TextProblem (α × Reading) :=
  if r.peek = t then .ok (result, r.drop) else .error r.problem

mutual

-- The number of one node; `room` is the depth to which collections may still be nested.
private def node : Nat → Nat → Place → Reading → Except TextProblem (Nat × Reading)
  | 0, _, _, _ => .error .malformed
  | fuel + 1, room, place, r =>
    match r.peek with
    | .reference a =>
      match r.anchors.lookup a with
      | some n => .ok (n, r.drop)
      | none => .error .malformed
    | _ => do
      let (ps, r) ← r.properties
      let address ← r.tagAddress ps.tag
      if let .failed p :: _ := r.tokens then throw p
      r.checkFresh ps.anchor
      let sequence (read : Nat → Reading → Except TextProblem (List Nat × Reading)) := do
        if room = 0 then throw (.fault .tooDeep)
        let (n, r) := r.add ps.anchor ⟨collectionTag address .seq, .sequence []⟩
        let (items, r) ← read (room - 1) r
        return (n, r.fill n (.sequence items))
      let mapping (read : Nat → Reading → Except TextProblem (List (Nat × Nat) × Reading)) := do
        if room = 0 then throw (.fault .tooDeep)
        let (n, r) := r.add ps.anchor ⟨collectionTag address .map, .mapping []⟩
        let (entries, r) ← read (room - 1) r
        return (n, r.fill n (.mapping entries))
      match r.peek, place with
      | .blockEntry, .blockOrEntries => sequence fun room r => entries fuel room r []
      | .scalar plain text, _ =>
        return r.drop.add ps.anchor ⟨scalarTag address plain text, .scalar text⟩
      | .flowSequenceStart, _ => sequence fun room r => flowItems fuel room true r.drop []
      | .flowMappingStart, _ => mapping fun room r => flowPairs fuel room true r.drop []
      | t, place =>
        if t = .blockSequenceStart ∧ place ≠ .flow then
          sequence fun room r => blockItems fuel room r.drop []
        else if t = .blockMappingStart ∧ place ≠ .flow then
          mapping fun room r => blockPairs fuel room r.drop []
        else if ps.anchor.isSome ∨ ps.tag.isSome then
          return r.add ps.anchor ⟨scalarTag address true "", .scalar ""⟩
        else throw r.problem

-- A node, unless one of the given tokens stands where it would begin.
private def nodeUnless :
    Nat → Nat → Place → List Token → Reading → Except TextProblem (Nat × Reading)
  | 0, _, _, _, _ => .error .malformed
  | fuel + 1, room, place, ends, r =>
    if ends.contains r.peek then .ok r.addEmpty else node fuel room place r

private def blockItems :
    Nat → Nat → Reading → List Nat → Except TextProblem (List Nat × Reading)
  | 0, _, _, _ => .error .malformed
  | fuel + 1, room, r, done =>
    if r.peek = .blockEntry then do
      let (n, r) ← nodeUnless fuel room .block [.blockEntry, .blockEnd] r.drop
      blockItems fuel room r (n :: done)
    else r.close .blockEnd done.reverse

-- The items of a sequence that is indented no more than the mapping it is a value of.
private def entries : Nat → Nat → Reading → List Nat → Except TextProblem (List Nat × Reading)
  | 0, _, _, _ => .error .malformed
  | fuel + 1, room, r, done =>
    if r.peek = .blockEntry then do
      let (n, r) ← nodeUnless fuel room .block [.blockEntry, .key, .value, .blockEnd] r.drop
      entries fuel room r (n :: done)
    else .ok (done.reverse, r)

private def blockPairs :
    Nat → Nat → Reading → List (Nat × Nat) → Except TextProblem (List (Nat × Nat) × Reading)
  | 0, _, _, _ => .error .malformed
  | fuel + 1, room, r, done => do
    let ends := [.key, .value, .blockEnd]
    if r.peek = .key then
      let (k, r) ← nodeUnless fuel room .blockOrEntries ends r.drop
      let (v, r) ←
        if r.peek = .value then nodeUnless fuel room .blockOrEntries ends r.drop
        else pure r.addEmpty
      blockPairs fuel room r ((k, v) :: done)
    else r.close .blockEnd done.reverse

-- The items of a sequence in brackets. An item may be a single entry of a mapping.
private def flowItems :
    Nat → Nat → Bool → Reading → List Nat → Except TextProblem (List Nat × Reading)
  | 0, _, _, _, _ => .error .malformed
  | fuel + 1, room, first, r, done => do
    if r.peek = .flowSequenceEnd then return (done.reverse, r.drop)
    let r ← if first then pure r
      else if r.peek = .flowEntry then pure r.drop else throw r.problem
    let ends := [.flowEntry, .flowSequenceEnd]
    if r.peek = .key then
      if room = 0 then throw (.fault .tooDeep)
      let (n, r) := r.add none ⟨.map, .mapping []⟩
      let (k, r) ← nodeUnless fuel (room - 1) .flow (.value :: ends) r.drop
      let (v, r) ←
        if r.peek = .value then nodeUnless fuel (room - 1) .flow ends r.drop else pure r.addEmpty
      flowItems fuel room false (r.fill n (.mapping [(k, v)])) (n :: done)
    else if r.peek = .flowSequenceEnd then return (done.reverse, r.drop)
    else
      let (n, r) ← node fuel room .flow r
      flowItems fuel room false r (n :: done)

-- The entries of a mapping in braces. A key may stand without a value.
private def flowPairs :
    Nat → Nat → Bool → Reading → List (Nat × Nat) → Except TextProblem (List (Nat × Nat) × Reading)
  | 0, _, _, _, _ => .error .malformed
  | fuel + 1, room, first, r, done => do
    if r.peek = .flowMappingEnd then return (done.reverse, r.drop)
    let r ← if first then pure r
      else if r.peek = .flowEntry then pure r.drop else throw r.problem
    let ends := [.flowEntry, .flowMappingEnd]
    if r.peek = .key then
      let (k, r) ← nodeUnless fuel room .flow (.value :: ends) r.drop
      let (v, r) ←
        if r.peek = .value then nodeUnless fuel room .flow ends r.drop else pure r.addEmpty
      flowPairs fuel room false r ((k, v) :: done)
    else if r.peek = .flowMappingEnd then return (done.reverse, r.drop)
    else
      let (k, r) ← node fuel room .flow r
      let (v, r) := r.addEmpty
      flowPairs fuel room false r ((k, v) :: done)

end

-- The directives before a document. A version may be given once and must be 1, and a handle has one
-- address.
private def directives (version : Bool) (own : List (String × String)) :
    List Token → Except TextProblem (List (String × String) × List Token)
  | .versionDirective major :: rest =>
    if version ∨ major ≠ 1 then .error .malformed else directives true own rest
  | .tagDirective h a :: rest =>
    if (own.lookup h).isSome then .error .malformed else directives version ((h, a) :: own) rest
  | .otherDirective :: rest => directives version own rest
  | rest => .ok (own, rest)

private def document (r : Reading) : Except TextProblem (Nat × Reading) :=
  let fuel := 4 * r.tokens.length + 16
  let room := Document.greatestDepth
  match r.tokens with
  | .versionDirective _ :: _ | .tagDirective _ _ :: _ | .otherDirective :: _
  | .documentStart :: _ => do
    let (own, rest) ← directives false [] r.tokens
    match rest with
    | .documentStart :: rest =>
      let r := { r with tokens := rest, handles := own ++ commonHandles }
      match rest with
      | [] | .versionDirective _ :: _ | .tagDirective _ _ :: _ | .otherDirective :: _
      | .documentStart :: _ | .documentEnd :: _ => return r.addEmpty
      | _ => node fuel room .block r
    | rest => throw { r with tokens := rest }.problem
  | _ => node fuel room .block r

end Reading

/-- The one document of some tokens, or nothing if there is no document. -/
def Document.ofTokens? (tokens : List Token) : Except TextProblem (Option Document) := do
  if tokens.isEmpty then return none
  let (root, r) ← Reading.document ⟨tokens, #[], [], Reading.commonHandles⟩
  let rest := r.tokens.dropWhile (· == .documentEnd)
  if rest.isEmpty then return some ⟨r.nodes, root⟩
  let (_, rest) ← Reading.directives false [] rest
  throw { r with tokens := rest }.problem

end TestSkeleton.Yaml
