import TestSkeleton.Document.Display

/-!
# Writing JSON

Values as JSON texts of ASCII characters, on one line or spread over lines with an indentation.
Numbers have their usual written form, and values that JSON does not know are written as the text
of their display.
-/

namespace TestSkeleton.Json

open Text

private def unitEscape (n : Nat) : List Char := '\\' :: 'u' :: hex 4 n

/-- One character inside a string. -/
def stringChar (c : Char) : List Char :=
  let n := c.toNat
  if c = '"' then ['\\', '"']
  else if c = '\\' then ['\\', '\\']
  else if c = '\n' then ['\\', 'n']
  else if c = '\r' then ['\\', 'r']
  else if c = '\t' then ['\\', 't']
  else if c = '\x08' then ['\\', 'b']
  else if c = '\x0c' then ['\\', 'f']
  else if 0x20 ≤ n ∧ n < 0x7f then [c]
  else if n < 0x10000 then unitEscape n
  else unitEscape (0xd800 + (n - 0x10000) / 0x400) ++ unitEscape (0xdc00 + (n - 0x10000) % 0x400)

/-- A text as a JSON string. -/
def writeString (s : String) : String :=
  String.ofList ('"' :: s.toList.flatMap stringChar ++ ['"'])

/-- A number as JSON has it; the values that are no numbers have names. -/
def writeFloat : Binary64 → String
  | .nan => "NaN"
  | .infinite n => if n then "-Infinity" else "Infinity"
  | x => x.display

/-- The layout of a JSON text: what stands between the parts of a collection. -/
structure Style where
  /-- What follows an opening bracket and each comma at a depth. -/
  lineStart : Nat → String
  /-- What comes before a closing bracket at the depth of the collection. -/
  lineEnd : Nat → String
  /-- What stands between a name and its value. -/
  colon : String

/-- Everything on one line without blanks. -/
def Style.dense : Style := ⟨fun _ => "", fun _ => "", ":"⟩

/-- Two blanks a level, each item and member on a line of its own. -/
def Style.indented : Style :=
  let line (depth : Nat) : String := "\n" ++ "".pushn ' ' (2 * depth)
  ⟨line, line, ": "⟩

-- Parts of a collection between its brackets; an empty collection is the brackets alone.
private def enclose (st : Style) (depth : Nat) (opening closing : String) (parts : List String) :
    String :=
  if parts.isEmpty then opening ++ closing
  else opening ++ st.lineStart (depth + 1)
    ++ ("," ++ st.lineStart (depth + 1)).intercalate parts ++ st.lineEnd depth ++ closing

/-- The name of a member: a text key itself, other keys by their display. -/
def keyText (k : Value) : String := k.display

mutual

/-- A value at a depth. -/
def writeAt (st : Style) (depth : Nat) : Value → String
  | .null => "null"
  | .bool b => if b then "true" else "false"
  | .int i => toString i
  | .float x => writeFloat x
  | .text s => writeString s
  | .list xs => enclose st depth "[" "]" (writeItems st (depth + 1) xs)
  | .map es => enclose st depth "\x7b" "\x7d" (writeMembers st (depth + 1) es)
  | v => writeString v.display

/-- The items of a list. -/
def writeItems (st : Style) (depth : Nat) : List Value → List String
  | [] => []
  | x :: xs => writeAt st depth x :: writeItems st depth xs

/-- The members of an object. -/
def writeMembers (st : Style) (depth : Nat) : List (Value × Value) → List String
  | [] => []
  | (k, v) :: es =>
    (writeString (keyText k) ++ st.colon ++ writeAt st depth v) :: writeMembers st depth es

end

/-- A value as a JSON text. -/
def write (st : Style) (v : Value) : String := writeAt st 0 v

end TestSkeleton.Json
