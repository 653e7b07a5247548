import TestSkeleton.Document.Value

/-!
# Graphs of collections

Collections that share parts, or contain themselves, as a table of places. `Graph.value` is the
value at a place: what is shared is repeated, and each collection on the way from a collection to
itself becomes a cycle labelled with its place. A value that mentions no collection around it and
not its own is on no such way, so it is the same wherever its place occurs and is made once.
-/

namespace TestSkeleton

/-- What is at a place: a value, or a collection of what is at other places. -/
inductive Shape where
  | value (v : Value)
  | list (items : List Nat)
  | pairs (items : List (Nat × Nat))
  | map (entries : List (Value × Nat))
deriving Inhabited, Repr

/-- Collections by their places. -/
abbrev Graph := Array Shape

namespace Graph

-- A value, and the labels of the collections around it that it mentions.
private structure Outcome where
  value : Value
  mentioned : List Nat := []

private abbrev Made := Array (Option Value)

-- A collection at a place, which is a cycle if it mentions itself or a collection around it.
private def tied (place : Nat) (o : Outcome) : Outcome :=
  if o.mentioned.isEmpty then o else ⟨.cycle place o.value, o.mentioned.filter (· != place)⟩

private def isMapping (g : Graph) (place : Nat) : Bool :=
  match g[place]? with
  | some (.map _) => true
  | _ => false

-- The value at a place inside the collections at some places; the fuel bounds their number.
private def valueInside (g : Graph) : Nat → List Nat → Nat → StateM Made Outcome
  | 0, _, _ => return ⟨.null, []⟩
  | fuel + 1, around, place => do
    if around.contains place then return ⟨.again place (isMapping g place), [place]⟩
    if let some (some v) := (← get)[place]? then return ⟨v, []⟩
    let inner (p : Nat) : StateM Made Outcome := valueInside g fuel (place :: around) p
    let outcome ← match g[place]? with
      | none => pure ⟨.null, []⟩
      | some (.value v) => pure ⟨v, []⟩
      | some (.list items) =>
        let xs ← items.mapM inner
        pure ⟨.list (xs.map (·.value)), xs.flatMap (·.mentioned)⟩
      | some (.pairs items) =>
        let xs ← items.mapM fun (k, v) => do
          let k ← inner k
          let v ← inner v
          return Outcome.mk (.tuple [k.value, v.value]) (k.mentioned ++ v.mentioned)
        pure ⟨.list (xs.map (·.value)), xs.flatMap (·.mentioned)⟩
      | some (.map entries) =>
        let xs ← entries.mapM fun (k, v) => do return (k, ← inner v)
        pure ⟨.map (xs.map fun e => (e.1, e.2.value)), xs.flatMap (·.2.mentioned)⟩
    if outcome.mentioned.isEmpty then modify (·.setIfInBounds place (some outcome.value))
    return tied place outcome

/-- The value at a place. -/
def value (g : Graph) (place : Nat) : Value :=
  ((valueInside g (g.size + 1) [] place).run (Array.replicate g.size none)).1.value

end Graph
end TestSkeleton
