import TestSkeleton.Yaml.Node

/-!
# Merge keys

A mapping takes in the entries of the mappings that its merge keys name, in front of its own
entries, and the merge keys go away. The mappings that are taken in are flattened first and stay so,
also where they stand on their own. A default key in a flattened mapping is a text.
-/

namespace TestSkeleton.Yaml.Document

/-- Nodes by number. -/
abbrev Nodes := Array Node

/-- The entries of a mapping; other nodes have none. -/
def entriesAt (nodes : Nodes) (n : Nat) : List (Nat × Nat) :=
  match nodes[n]? with
  | some ⟨_, .mapping entries⟩ => entries
  | _ => []

/-- The tag of a node. -/
def tagAt (nodes : Nodes) (n : Nat) : Tag := (nodes[n]?.map Node.tag).getD .other

private def setEntries (nodes : Nodes) (n : Nat) (entries : List (Nat × Nat)) : Nodes :=
  nodes.modify n fun node => { node with content := .mapping entries }

private def settleKey (nodes : Nodes) (key : Nat) : Nodes :=
  nodes.modify key fun node => if node.tag = .value then { node with tag := .str } else node

/-- The value of the first merge key among entries, and the other entries. -/
def takeMerge? (nodes : Nodes) : List (Nat × Nat) → Option (Nat × List (Nat × Nat))
  | [] => none
  | (k, v) :: rest =>
    if tagAt nodes k = .merge then some (v, rest)
    else (takeMerge? nodes rest).map fun (found, others) => (found, (k, v) :: others)

private def requireMapping (nodes : Nodes) (n : Nat) : Except TextProblem Nat :=
  match nodes[n]? with
  | some ⟨_, .mapping _⟩ => .ok n
  | _ => .error .malformed

mutual

/-- Flattens a mapping. The fuel bounds the number of merge keys that are taken out. -/
def flatten : Nat → Nodes → Nat → Except TextProblem Nodes
  | 0, nodes, _ => .ok nodes
  | fuel + 1, nodes, n => do
    let (merged, nodes) ← mergesOf fuel nodes n []
    let own := entriesAt nodes n
    return setEntries ((own.map (·.1)).foldl settleKey nodes) n (merged ++ own)

-- Takes the merge keys out of a mapping, one after the other, and returns what they bring in after
-- some entries.
private def mergesOf : Nat → Nodes → Nat → List (Nat × Nat) →
    Except TextProblem (List (Nat × Nat) × Nodes)
  | 0, nodes, _, merged => .ok (merged, nodes)
  | fuel + 1, nodes, n, merged => do
    match takeMerge? nodes (entriesAt nodes n) with
    | none => return (merged, nodes)
    | some (source, others) =>
      let (here, nodes) ← sourceEntries fuel (setEntries nodes n others) source
      mergesOf fuel nodes n (merged ++ here)

-- The entries of the mapping, or of the sequence of mappings, that a merge key names. Of several
-- mappings the last comes first, so that the first wins.
private def sourceEntries : Nat → Nodes → Nat → Except TextProblem (List (Nat × Nat) × Nodes)
  | 0, nodes, _ => .ok ([], nodes)
  | fuel + 1, nodes, source => do
    let flat (nodes : Nodes) (n : Nat) : Except TextProblem (List (Nat × Nat) × Nodes) := do
      let nodes ← flatten fuel nodes (← requireMapping nodes n)
      return (entriesAt nodes n, nodes)
    match nodes[source]? with
    | some ⟨_, .sequence items⟩ =>
      items.foldlM (fun (merged, nodes) n => do
        let (here, nodes) ← flat nodes n
        return (here ++ merged, nodes)) ([], nodes)
    | _ => flat nodes source

end

/-- Fuel that is enough to flatten every mapping of a document: flattening adds no merge keys. -/
def mergeFuel (nodes : Nodes) : Nat :=
  8 + 4 * nodes.foldl (fun total n => match n.content with
    | .mapping entries => total + entries.length
    | _ => total) 0

end TestSkeleton.Yaml.Document
