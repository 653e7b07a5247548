import TestSkeleton.Document.Display
import TestSkeleton.Text.Quoted

/-!
# Writing TOML

A document as the chunks of its text: the lines of a table first, then the tables in it. A value
that TOML does not have ends the writing where it stands; the chunks before it are written.
-/

namespace TestSkeleton.Toml

open Text

/-- The column that a table in an array may reach on one line. -/
def greatestLine : Nat := 100

private def stringChar (c : Char) : List Char :=
  let n := c.toNat
  if c = '"' then ['\\', '"']
  else if c = '\\' then ['\\', '\\']
  else if c = '\n' then ['\\', 'n']
  else if c = '\r' then ['\\', 'r']
  else if c = '\x08' then ['\\', 'b']
  else if c = '\x0c' then ['\\', 'f']
  else if (n < 0x20 ∧ c ≠ '\t') ∨ n = 0x7f then '\\' :: 'u' :: hex 4 n
  else [c]

/-- A text as a string. -/
def writeString (s : String) : String :=
  String.ofList ('"' :: s.toList.flatMap stringChar ++ ['"'])

/-- A part of a key: bare, if it has only letters, digits, dashes and underscores. -/
def writeKey (k : String) : String :=
  if k ≠ "" && k.toList.all fun c => c.isAlphanum || c == '-' || c == '_' then k
  else writeString k

private def indent (level : Nat) : String := "".pushn ' ' (4 * level)

mutual

/-- A value on the right of an equals sign, at a level of nested arrays. -/
def literalText? (level : Nat) : Value → Option String
  | .bool b => some (if b then "true" else "false")
  | .int i => some (toString i)
  | .float x => some x.display
  | .text s => some (writeString s)
  | .moment m => some m.text
  | .list xs =>
    if xs.isEmpty then some "[]"
    else (itemTexts? (level + 1) xs).map fun ts =>
      "[\n" ++ ",\n".intercalate (ts.map (indent (level + 1) ++ ·)) ++ ",\n" ++ indent level ++ "]"
  | .map es =>
    if es.isEmpty then some "\x7b\x7d"
    else (memberTexts? es).map fun ts => "\x7b " ++ ", ".intercalate ts ++ " \x7d"
  | _ => none

/-- The items of an array. -/
def itemTexts? (level : Nat) : List Value → Option (List String)
  | [] => some []
  | x :: xs => do return (← literalText? level x) :: (← itemTexts? level xs)

/-- The members of a table on one line. -/
def memberTexts? : List (Value × Value) → Option (List String)
  | [] => some []
  | (k, v) :: es => do
    return (writeKey k.display ++ " = " ++ (← literalText? 0 v)) :: (← memberTexts? es)

end

/-- A part of a table: a line, tables, or a value that cannot even be sorted into these. -/
inductive Part where
  | line (key : String) (value : Option String)
  | tables (key : String) (inArray : Bool) (tables : List (List Part))
  | unsorted

/-- Whether a table in an array fits on a line; none for a value that TOML does not have. -/
def fitsLine? (v : Value) : Option Bool :=
  (literalText? 0 v).map fun t =>
    decide ((indent 1 ++ t ++ ",").length ≤ greatestLine) && !t.toList.contains '\n'

/-- Whether all tables of an array fit on a line; the first that does not decides. -/
def allFitLine? : List Value → Option Bool
  | [] => some true
  | v :: vs => do if ← fitsLine? v then allFitLine? vs else return false

private def isTable : Value → Bool
  | .map _ => true
  | _ => false

mutual

/-- An entry of a table. -/
def partOf (key : String) : Value → Part
  | .map es => .tables key false [partsOf es]
  | .list xs =>
    if !xs.isEmpty && xs.all isTable then
      match allFitLine? xs with
      | none => .unsorted
      | some true => .line key (literalText? 0 (.list xs))
      | some false => .tables key true (itemParts xs)
    else .line key (literalText? 0 (.list xs))
  | v => .line key (literalText? 0 v)

/-- The entries of a table. -/
def partsOf : List (Value × Value) → List Part
  | [] => []
  | (k, v) :: es => partOf (writeKey k.display) v :: partsOf es

/-- The tables of an array. -/
def itemParts : List Value → List (List Part)
  | [] => []
  | .map es :: vs => partsOf es :: itemParts vs
  | _ :: vs => itemParts vs

end

/-- What has been written, and whether a value has ended it. -/
structure Written where
  text : String := ""
  failed : Bool := false
deriving DecidableEq, Repr, Inhabited

namespace Written

/-- Goes on writing, unless a value has ended it. -/
def andThen (w : Written) (next : Written) : Written :=
  if w.failed then w else ⟨w.text ++ next.text, next.failed⟩

end Written

private def lineTexts : List Part → Written
  | [] => {}
  | .line key (some value) :: rest =>
    Written.andThen ⟨key ++ " = " ++ value ++ "\n", false⟩ (lineTexts rest)
  | .line _ none :: _ => ⟨"", true⟩
  | _ :: rest => lineTexts rest

private def isLine : Part → Bool
  | .line _ _ => true
  | _ => false

private def hasTables : Part → Bool
  | .tables _ _ ts => !ts.isEmpty
  | _ => false

private def isUnsorted : Part → Bool
  | .unsorted => true
  | _ => false

-- Texts with a blank line before each but the first, which has one if something stands before it.
private def spaced (before : Bool) : List Written → Written
  | [] => {}
  | w :: rest =>
    Written.andThen ⟨if before then "\n" else "", false⟩ (Written.andThen w (spaced true rest))

private def ownText (name : String) (inArray : Bool) (parts : List Part) : Written :=
  if parts.any isUnsorted then ⟨"", true⟩
  else
    let head := if inArray then "[[" ++ name ++ "]]\n"
      else if name ≠ "" && (parts.any isLine || !parts.any hasTables) then "[" ++ name ++ "]\n"
      else ""
    Written.andThen ⟨head, false⟩ (lineTexts parts)

private def innerName (name key : String) : String :=
  if name = "" then key else name ++ "." ++ key

mutual

/-- A table with all tables in it. -/
def tableText (name : String) (inArray : Bool) (parts : List Part) : Written :=
  let own := ownText name inArray parts
  own.andThen (spaced (own.text ≠ "") (innerTexts name parts))

/-- The tables in a table. -/
def innerTexts (name : String) : List Part → List Written
  | [] => []
  | .tables key inArray tables :: rest =>
    tableTexts (innerName name key) inArray tables ++ innerTexts name rest
  | _ :: rest => innerTexts name rest

/-- Several tables of one name. -/
def tableTexts (name : String) (inArray : Bool) : List (List Part) → List Written
  | [] => []
  | parts :: rest => tableText name inArray parts :: tableTexts name inArray rest

end

/-- A document as text, as far as its values can be written. -/
def write (entries : List (Value × Value)) : Written := tableText "" false (partsOf entries)

end TestSkeleton.Toml
