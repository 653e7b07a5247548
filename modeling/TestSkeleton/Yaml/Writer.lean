import TestSkeleton.Document.Display
import TestSkeleton.Yaml.ScalarStyle

/-!
# Writing YAML

Documents in block style: each entry of a mapping and each item of a sequence begins a line. What is
nested is indented by two blanks, but for a sequence that is the value of a key; empty collections
are a pair of brackets or braces.
-/

namespace TestSkeleton.Yaml

/-- A floating-point number. A mantissa always has a point. -/
def writeFloat : Binary64 → String
  | .nan => ".nan"
  | .infinite n => if n then "-.inf" else ".inf"
  | x =>
    let cs := x.display.toList
    if cs.contains '.' then x.display
    else String.ofList
      (cs.takeWhile (· != 'e') ++ ".0".toList ++ cs.dropWhile (· != 'e'))

/-- The greatest length of a key that is recognized without a mark in front of it. -/
def greatestKeyLength : Nat := 122

/-- Whether a key is recognized without a mark in front of it. -/
def isSimpleKey (k : String) : Bool :=
  k != "" && k.length ≤ greatestKeyLength && !ScalarStyle.isMultiline k.toList

/-- Writes a key at a column and the colon after it. -/
def writeKey (p : Page) (column : Nat) (k : String) : Page :=
  let p := p.indentTo column
  if isSimpleKey k then ((ScalarStyle.ofText true k).write p none k).attach ":"
  else
    let inner := column + indentWidth
    (((ScalarStyle.ofText false k).write (p.lead "?") (some inner) k).indentTo column).lead ":"

/-- Writes a text. -/
def writeText (p : Page) (column : Nat) (s : String) : Page :=
  (ScalarStyle.ofText false s).write p (some (column + indentWidth)) s

mutual

/-- Writes a value inside a collection that is at a column. -/
def writeNode (column : Nat) (isEntry : Bool) (p : Page) : Value → Page
  | .null => p.mark "null"
  | .bool b => p.mark (if b then "true" else "false")
  | .int i => p.mark (toString i)
  | .float x => p.mark (writeFloat x)
  | .list xs =>
    if xs.isEmpty then p.mark "[]"
    else writeItems (if isEntry && !p.fresh then column else column + indentWidth) p xs
  | .map es => if es.isEmpty then p.mark "\x7b\x7d" else writeEntries (column + indentWidth) p es
  | v => writeText p column v.display

/-- Writes the items of a sequence at a column. -/
def writeItems (column : Nat) (p : Page) : List Value → Page
  | [] => p
  | x :: xs => writeItems column (writeNode column false ((p.indentTo column).lead "-") x) xs

/-- Writes the entries of a mapping at a column. -/
def writeEntries (column : Nat) (p : Page) : List (Value × Value) → Page
  | [] => p
  | (k, v) :: es => writeEntries column (writeNode column true (writeKey p column k.display) v) es

end

/-- A document that is a mapping with some entries. -/
def write (entries : List (Value × Value)) : String :=
  (if entries.isEmpty then (Page.mark {} "\x7b\x7d") else writeEntries 0 {} entries).endLine.text

end TestSkeleton.Yaml
