import TestSkeleton.Document.Value
import TestSkeleton.Fault
import TestSkeleton.Number.Layout
import TestSkeleton.Number.Numeral
import TestSkeleton.Text.Quoted

/-!
# Display of values

The text of a value. A text on its own is itself; inside a collection it is quoted. Lists stand in
brackets, tuples in parentheses, mappings and sets in braces, and three dots stand for a collection
inside itself. Whole numbers with too many digits and collections nested too deeply have no text;
`Value.shown` reports them.
-/

namespace TestSkeleton.Value

open Text

/-- The text of a truth value. -/
def boolText (b : Bool) : String := if b then "True" else "False"

private def openBrace : String := "\x7b"

private def closeBrace : String := "\x7d"

private def ellipsis (isMapping : Bool) : String :=
  if isMapping then openBrace ++ "..." ++ closeBrace else "[...]"

private def isMapping : Value → Bool
  | map _ => true
  | _ => false

mutual

/-- How a value appears inside the display of collections, the cycles among which have the given
labels. -/
def quotedInside (around : List Nat) : Value → String
  | null => "None"
  | bool b => boolText b
  | int i => toString i
  | float x => x.display
  | text s => Text.quoted s
  | moment m => m.quoted
  | bytes bs => quotedBytes bs
  | list xs => "[" ++ ", ".intercalate (quotedItems around xs) ++ "]"
  | tuple xs =>
    "(" ++ ", ".intercalate (quotedItems around xs) ++ (if xs.length = 1 then ",)" else ")")
  | set xs =>
    if xs.isEmpty then "set()"
    else openBrace ++ ", ".intercalate (quotedItems around xs) ++ closeBrace
  | map es => openBrace ++ ", ".intercalate (quotedEntries around es) ++ closeBrace
  | cycle label body =>
    if around.contains label then ellipsis (isMapping body)
    else quotedInside (label :: around) body
  | again _ isMapping => ellipsis isMapping

/-- The items of a collection. -/
def quotedItems (around : List Nat) : List Value → List String
  | [] => []
  | x :: xs => quotedInside around x :: quotedItems around xs

/-- The entries of a mapping, key and value with a colon between them. -/
def quotedEntries (around : List Nat) : List (Value × Value) → List String
  | [] => []
  | (k, v) :: es =>
    (quotedInside around k ++ ": " ++ quotedInside around v) :: quotedEntries around es

end

/-- How a value appears inside the display of a collection. -/
def quoted (v : Value) : String := quotedInside [] v

/-- The text of a value on its own. -/
def display : Value → String
  | text s => s
  | moment m => m.text
  | v => quoted v

/-- A text is displayed as itself. -/
@[simp] theorem display_text (s : String) : display (.text s) = s := rfl

/-! ### Values without a text -/

/-- How deeply the collections of a value that has a text are nested. The number is a limit of one
environment, the room on its call stack where a run displays a value; so are the greatest depths of
the readers. -/
def greatestDepth : Nat := 986

mutual

/-- Why a value has no text, if collections may be nested only so deeply; the first reason in the
order of the text counts. -/
def faultWithin? : Nat → Value → Option Fault
  | _, int i => if Numeral.isLong i then some .badValue else none
  | 0, list _ | 0, tuple _ | 0, set _ | 0, map _ | 0, cycle _ _ => some .tooDeep
  | room + 1, list xs | room + 1, tuple xs | room + 1, set xs => itemsFault? room xs
  | room + 1, map es => entriesFault? room es
  | room + 1, cycle _ body => faultWithin? (room + 1) body
  | _, _ => none

/-- Why an item has no text. -/
def itemsFault? : Nat → List Value → Option Fault
  | _, [] => none
  | room, x :: xs => (faultWithin? room x).or (itemsFault? room xs)

/-- Why a key or a value of an entry has no text. -/
def entriesFault? : Nat → List (Value × Value) → Option Fault
  | _, [] => none
  | room, (k, v) :: es => ((faultWithin? room k).or (faultWithin? room v)).or (entriesFault? room es)

end

/-- Why a value has no text. -/
def fault? (v : Value) : Option Fault := faultWithin? greatestDepth v

/-- The text of a value, if it has one. -/
def shown (v : Value) : Except Fault String :=
  match v.fault? with
  | some f => .error f
  | none => .ok v.display

/-- A text is shown as itself. -/
@[simp] theorem shown_text (s : String) : shown (.text s) = .ok s := rfl

end TestSkeleton.Value
