import TestSkeleton.Document.Value

/-!
# The order of sets

A set of numbers and truth values shows its members in the order of a hash table in which each is at
the first free place that its hash leads to. The table has a power of two of places and grows when
three fifths of them are taken. Members of other kinds have hashes that no document fixes; a set
that has one of them shows its members in the order of the document.
-/

namespace TestSkeleton.Value

/-! ### Hashes -/

private def hashModulus : Nat := Nat.pow 2 61 - 1

-- The hash of a number with the given residue of its magnitude. There is no hash of -1.
private def signedHash (negative : Bool) (residue : Nat) : Int :=
  let h : Int := if negative then -residue else residue
  if h = -1 then -2 else h

-- The hash of a number. Equal numbers have equal hashes, since a power of two has the residue of
-- the power to the exponent modulo 61.
private def hash? : Value → Option Int
  | .bool b => some (if b then 1 else 0)
  | .int i => some (signedHash (decide (i < 0)) (i.natAbs % hashModulus))
  | .float (.finite n m e) =>
    some (signedHash n (m * Nat.pow 2 (e % 61).toNat % hashModulus))
  | .float (.infinite n) => some (signedHash n 314159)
  | _ => none

/-! ### Tables -/

private abbrev Places := Array (Option (Int × Value))

private def leastSize : Nat := 8

-- How many neighbours of a place are looked at before the hash leads elsewhere.
private def neighbours : Nat := 9

private def isFree (t : Places) (place : Nat) : Bool := t[place]?.any Option.isNone

-- The first free place from a place on, among itself and the next few ones.
private def freeAmong? (t : Places) (place near : Nat) : Option Nat :=
  ((List.range (near + 1)).map (place + ·)).find? (isFree t)

-- The first free place that a hash leads to. `high` holds the bits of the hash that have not been
-- used yet; once they are gone every place is reached.
private def freePlace? (t : Places) : Nat → Nat → Nat → Option Nat
  | 0, _, _ => none
  | fuel + 1, high, place =>
    let near := if place + neighbours < t.size then neighbours else 0
    match freeAmong? t place near with
    | some p => some p
    | none =>
      let high := high / 32
      freePlace? t fuel high ((place * 5 + 1 + high) % t.size)

-- Adds a member with its hash. Negative hashes count as large numbers of 64 bits.
private def addMember (t : Places) (member : Int × Value) : Places :=
  let bits := (member.1 % (Nat.pow 2 64 : Nat)).toNat
  match freePlace? t (t.size + 14) bits (bits % t.size) with
  | some p => t.setIfInBounds p (some member)
  | none => t

private def sizeAbove (n : Nat) : Nat := max leastSize (Nat.pow 2 (Nat.log2 n + 1))

private def tableOf (n : Nat) (members : List (Int × Value)) : Places :=
  members.foldl addMember (Array.replicate (sizeAbove n) none)

private def held (t : Places) : List (Int × Value) := t.toList.filterMap id

private def isFull (t : Places) (count : Nat) : Bool := 3 * (t.size - 1) ≤ 5 * count

-- Adds members to a table that has a number of them; a full table grows.
private def addAll (t : Places) (count : Nat) : List (Int × Value) → Places
  | [] => t
  | member :: rest =>
    let t := addMember t member
    let count := count + 1
    let t := if isFull t count then tableOf (count * (if 50000 < count then 2 else 4)) (held t) else t
    addAll t count rest

/-- The members of a set in the order in which they are shown; no two of them are the same. -/
def setOrder (items : List Value) : List Value :=
  match items.mapM fun v => v.hash?.map (·, v) with
  | none => items
  | some members =>
    let t : Places := Array.replicate leastSize none
    let t := if isFull t members.length then tableOf (2 * members.length) [] else t
    (held (addAll t 0 members)).map (·.2)

/-- The empty set has no order to keep. -/
@[simp] theorem setOrder_nil : setOrder [] = [] := by decide

end TestSkeleton.Value
