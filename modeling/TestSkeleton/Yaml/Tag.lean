import TestSkeleton.Text.Split
import TestSkeleton.Text.Digit
import TestSkeleton.Yaml.Cursor

/-!
# Tags and the forms of plain scalars

The tags of the YAML 1.1 type repository, and which of them a plain scalar has by its form: `yes` is
a truth value, `010` an octal number, `1:30` one in base sixty, and a number with a point a
fraction.
-/

namespace TestSkeleton.Yaml

open Text

/-- A tag of a node. -/
inductive Tag where
  | null
  | bool
  | int
  | float
  | binary
  | timestamp
  | omap
  | pairs
  | set
  | str
  | seq
  | map
  | merge
  | value
  | other
deriving DecidableEq, Repr, Inhabited

namespace Tag

/-- The address that the tags of the type repository start with. -/
def repository : String := "tag:yaml.org,2002:"

/-- The tag with a name in the type repository. -/
def ofName : String → Tag
  | "null" => .null
  | "bool" => .bool
  | "int" => .int
  | "float" => .float
  | "binary" => .binary
  | "timestamp" => .timestamp
  | "omap" => .omap
  | "pairs" => .pairs
  | "set" => .set
  | "str" => .str
  | "seq" => .seq
  | "map" => .map
  | "merge" => .merge
  | "value" => .value
  | _ => .other

/-- The tag with an address. -/
def ofAddress (s : String) : Tag :=
  match stripStart? repository s with
  | some name => ofName name
  | none => .other

/-! ### Forms of scalars -/

private def digit (c : Char) : Bool := (baseDigit? 10 c).isSome

private def digitOr_ (base : Nat) (c : Char) : Bool := (baseDigit? base c).isSome || c == '_'

private def unsigned : List Char → List Char
  | '-' :: rest => rest
  | '+' :: rest => rest
  | rest => rest

-- Whether characters are a digit and then digits and underscores.
private def isGrouped : List Char → Bool
  | c :: rest => digit c && rest.all (digitOr_ 10)
  | [] => false

-- Whether a part after a colon is at most 59, in one or two digits.
private def isSixtieth : List Char → Bool
  | [a] => digit a
  | [a, b] => '0' ≤ a && a ≤ '5' && digit b
  | _ => false

/-- Whether a text is one of the words for truth values. -/
def isBool (s : String) : Bool :=
  ["yes", "Yes", "YES", "no", "No", "NO", "true", "True", "TRUE", "false", "False", "FALSE",
    "on", "On", "ON", "off", "Off", "OFF"].contains s

/-- Whether a text has the form of a whole number. -/
def isInt (s : String) : Bool :=
  match unsigned s.toList with
  | '0' :: 'b' :: rest => !rest.isEmpty && rest.all (digitOr_ 2)
  | '0' :: 'x' :: rest => !rest.isEmpty && rest.all (digitOr_ 16)
  | '0' :: rest => rest.all (digitOr_ 8)
  | c :: rest =>
    match rest.splitOn ':' with
    | first :: parts => digit c && first.all (digitOr_ 10) && parts.all isSixtieth
    | [] => false
  | [] => false

private def isExponent : List Char → Bool
  | [] => true
  | m :: sign :: rest =>
    (m == 'e' || m == 'E') && (sign == '-' || sign == '+') && !rest.isEmpty && rest.all digit
  | _ => false

/-- Whether a text has the form of a fraction. -/
def isFloat (s : String) : Bool :=
  let cs := s.toList
  let us := unsigned cs
  let word := String.ofList us
  let named := [".inf", ".Inf", ".INF"].contains word || [".nan", ".NaN", ".NAN"].contains s
  let whole := us.takeWhile (· ≠ '.')
  let tail := us.drop (whole.length + 1)
  let places := tail.takeWhile (digitOr_ 10)
  let rest := tail.drop places.length
  let pointed := us.contains '.'
  -- A fraction that starts with its point takes no sign.
  let bare := cs.head? == some '.' && isGrouped places && isExponent rest
  let usual := pointed && isGrouped whole && isExponent rest
  let sixties := pointed && rest.isEmpty &&
    match whole.splitOn ':' with
    | first :: p :: parts => isGrouped first && (p :: parts).all isSixtieth
    | _ => false
  named || bare || usual || sixties

/-- The parts of a timestamp as written. -/
structure Stamp where
  year : List Char
  month : List Char
  day : List Char
  /-- Hour, minute, second and the places after the point. -/
  time : Option (List Char × List Char × List Char × List Char)
  /-- Nothing, universal time, or a sign, hours and minutes. -/
  zone : Option (Option (Bool × List Char × List Char))

private def oneOrTwo (cs : List Char) : Option (List Char × List Char) :=
  let ds := (cs.take 2).takeWhile digit
  if ds.isEmpty then none else some (ds, cs.drop ds.length)

private def exactly (n : Nat) (cs : List Char) : Option (List Char × List Char) :=
  let ds := cs.take n
  if ds.length == n && ds.all digit then some (ds, cs.drop n) else none

private def after (c : Char) : List Char → Option (List Char)
  | x :: rest => if x = c then some rest else none
  | [] => none

private def zone? (cs : List Char) : Option (Option (Option (Bool × List Char × List Char))) := do
  match cs.dropWhile fun c => c == ' ' || c == '\t' with
  | [] => if cs.isEmpty then some none else none
  | ['Z'] => some (some none)
  | sign :: rest =>
    if sign != '-' && sign != '+' then none else
    let (hour, rest) ← oneOrTwo rest
    if rest.isEmpty then some (some (some (sign == '-', hour, []))) else
    let (minute, rest) ← exactly 2 (← after ':' rest)
    if rest.isEmpty then some (some (some (sign == '-', hour, minute))) else none

/-- The parts of a timestamp, if a text has the form of one. -/
def stamp? (s : String) : Option Stamp := do
  let (year, rest) ← exactly 4 s.toList
  let (month, rest) ← oneOrTwo (← after '-' rest)
  let (day, rest) ← oneOrTwo (← after '-' rest)
  if rest.isEmpty then return ⟨year, month, day, none, none⟩
  let gap := rest.takeWhile fun c => c == ' ' || c == '\t'
  let rest ← match gap, rest with
    | [], c :: r => if c == 'T' || c == 't' then some r else none
    | _, r => some (r.drop gap.length)
  let (hour, rest) ← oneOrTwo rest
  let (minute, rest) ← exactly 2 (← after ':' rest)
  let (second, rest) ← exactly 2 (← after ':' rest)
  let places := match rest with
    | '.' :: r => '.' :: r.takeWhile digit
    | _ => []
  let zone ← zone? (rest.drop places.length)
  return ⟨year, month, day, some (hour, minute, second, places.drop 1), zone⟩

/-- Whether a text has the form of a timestamp. A date on its own has two digits for the month and
the day. -/
def isTimestamp (s : String) : Bool :=
  match stamp? s with
  | some t => t.time.isSome || (t.month.length == 2 && t.day.length == 2)
  | none => false

/-- The tag of a plain scalar without one, by its form. -/
def ofPlain (s : String) : Tag :=
  if isBool s then .bool
  else if isFloat s then .float
  else if isInt s then .int
  else if s = "<<" then .merge
  else if ["~", "null", "Null", "NULL", ""].contains s then .null
  else if isTimestamp s then .timestamp
  else if s = "=" then .value
  else .str

end Tag
end TestSkeleton.Yaml
