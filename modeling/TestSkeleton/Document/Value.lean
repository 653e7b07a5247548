import TestSkeleton.Document.Calendar
import TestSkeleton.Number.Binary64

/-!
# Document values

The values that manifests, settings and template files hold after reading: scalars, lists and
mappings. A mapping keeps its entries in the order of their first keys, and the last of several
entries with equal keys gives the value.

A list or mapping may contain itself. Each collection on the way from it to itself is a `cycle`: its
body is the collection, and wherever the collection occurs in the body, `again` with the same label
stands for it. `Value.opened` gives the collection itself, one turn of the cycle unrolled; the
labels still tell which collections are the same.
-/

namespace TestSkeleton

/-- A value read from a document. -/
inductive Value where
  | null
  | bool (b : Bool)
  | int (i : Int)
  | float (x : Binary64)
  | text (s : String)
  | moment (m : Moment)
  | bytes (bs : List UInt8)
  | list (items : List Value)
  | tuple (items : List Value)
  | set (items : List Value)
  | map (entries : List (Value × Value))
  | cycle (label : Nat) (body : Value)
  | again (label : Nat) (isMapping : Bool)
deriving Inhabited, Repr

namespace Value

/-- The name that reports give to the kind of a value. -/
def kindName : Value → String
  | null => "NoneType"
  | bool _ => "bool"
  | int _ => "int"
  | float _ => "float"
  | text _ => "str"
  | moment (.date _) => "date"
  | moment (.time _) => "time"
  | moment (.dateTime _ _ _) => "datetime"
  | bytes _ => "bytes"
  | list _ => "list"
  | tuple _ => "tuple"
  | set _ => "set"
  | map _ => "dict"
  | cycle _ body => kindName body
  | again _ isMapping => if isMapping then "dict" else "list"

/-- Whether a value counts as given: null, false, zero and everything empty do not. -/
def isTruthy : Value → Bool
  | null => false
  | bool b => b
  | int i => i != 0
  | float x => !x.isZero
  | text s => s != ""
  | moment _ => true
  | bytes bs => !bs.isEmpty
  | list xs => !xs.isEmpty
  | tuple xs => !xs.isEmpty
  | set xs => !xs.isEmpty
  | map es => !es.isEmpty
  | cycle _ _ => true
  | again _ _ => true

/-! ### Cycles -/

mutual

/-- A value in which a collection stands where its label does. A cycle with the same label is left
as it is, since it stands for the same collection. -/
def fillIn (label : Nat) (whole : Value) : Value → Value
  | list xs => list (fillInItems label whole xs)
  | tuple xs => tuple (fillInItems label whole xs)
  | map es => map (fillInEntries label whole es)
  | cycle l body => if l = label then cycle l body else cycle l (fillIn label whole body)
  | again l isMapping => if l = label then whole else again l isMapping
  | v => v

/-- The items of a list, filled in. -/
def fillInItems (label : Nat) (whole : Value) : List Value → List Value
  | [] => []
  | x :: xs => fillIn label whole x :: fillInItems label whole xs

/-- The entries of a mapping, filled in. A key holds no collection. -/
def fillInEntries (label : Nat) (whole : Value) : List (Value × Value) → List (Value × Value)
  | [] => []
  | (k, v) :: es => (k, fillIn label whole v) :: fillInEntries label whole es

end

/-- A value of which the outermost collection is not a cycle. -/
def opened : Value → Value
  | cycle label body => fillIn label (cycle label body) body
  | v => v

/-- A list is open. -/
@[simp] theorem opened_list (xs : List Value) : opened (list xs) = list xs := rfl

/-- A mapping is open. -/
@[simp] theorem opened_map (es : List (Value × Value)) : opened (map es) = map es := rfl

/-- The entries of a mapping. -/
def entries? (v : Value) : Option (List (Value × Value)) :=
  match v.opened with
  | map es => some es
  | _ => none

/-- The items of a list. -/
def items? (v : Value) : Option (List Value) :=
  match v.opened with
  | list xs => some xs
  | _ => none

/-- A mapping has its entries. -/
@[simp] theorem entries?_map (es : List (Value × Value)) : entries? (map es) = some es := rfl

/-- A list has its items. -/
@[simp] theorem items?_list (xs : List Value) : items? (list xs) = some xs := rfl

/-! ### Keys -/

-- The whole number that a truth value or number of a key stands for.
private def asInt? : Value → Option Int
  | bool b => some (if b then 1 else 0)
  | int i => some i
  | _ => none

/-- Whether two keys are the same key: numbers and truth values by their number, moments by their
time, all others by kind and content. -/
def sameKey (x y : Value) : Bool :=
  match x.asInt?, y.asInt? with
  | some i, some j => i == j
  | some i, none => match y with | float b => b.equalsInt i | _ => false
  | none, some j => match x with | float a => a.equalsInt j | _ => false
  | none, none =>
    match x, y with
    | null, null => true
    | float a, float b => a.sameNumber b
    | text a, text b => a == b
    | moment a, moment b => a.same b
    | bytes a, bytes b => a == b
    | _, _ => false

/-- Entries with one more: an equal key keeps its place and takes the new value. -/
def insertEntry (entries : List (Value × Value)) (k v : Value) : List (Value × Value) :=
  match entries with
  | [] => [(k, v)]
  | (k', v') :: rest => if sameKey k' k then (k', v) :: rest else (k', v') :: insertEntry rest k v

/-- An entry after an insertion was there before, or it has the new value under a key that was there
or is the new one. -/
theorem mem_insertEntry {entries : List (Value × Value)} {k v : Value} {e : Value × Value}
    (h : e ∈ insertEntry entries k v) :
    e ∈ entries ∨ e.2 = v ∧ (e.1 = k ∨ ∃ w, (e.1, w) ∈ entries) := by
  induction entries with
  | nil =>
    rw [insertEntry, List.mem_singleton] at h
    exact .inr ⟨congrArg Prod.snd h, .inl (congrArg Prod.fst h)⟩
  | cons first rest ih =>
    obtain ⟨k', w⟩ := first
    rw [insertEntry] at h
    split at h
    · rcases List.mem_cons.mp h with rfl | h
      · exact .inr ⟨rfl, .inr ⟨w, List.mem_cons_self⟩⟩
      · exact .inl (List.mem_cons_of_mem _ h)
    · rcases List.mem_cons.mp h with rfl | h
      · exact .inl List.mem_cons_self
      · rcases ih h with hrest | ⟨hv, hk | ⟨w', hw'⟩⟩
        · exact .inl (List.mem_cons_of_mem _ hrest)
        · exact .inr ⟨hv, .inl hk⟩
        · exact .inr ⟨hv, .inr ⟨w', List.mem_cons_of_mem _ hw'⟩⟩

/-- A mapping from entries in the order of a document. -/
def ofEntries (entries : List (Value × Value)) : Value :=
  .map (entries.foldl (fun es e => insertEntry es e.1 e.2) [])

/-- The value of a text key. -/
def get? (entries : List (Value × Value)) (key : String) : Option Value :=
  (entries.find? fun e => match e.1 with | text k => k == key | _ => false).map (·.2)

/-- The mapping with text keys that has the given entries. -/
def ofTextEntries (entries : List (String × Value)) : Value :=
  .map (entries.map fun e => (.text e.1, e.2))

end Value
end TestSkeleton
