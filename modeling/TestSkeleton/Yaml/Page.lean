/-!
# Pages of YAML text

A text that is being written, with the column that it has reached. Marks stand apart from what is
before them by a blank, unless a blank or the start of a line is there already.
-/

namespace TestSkeleton.Yaml

/-- A text that is being written. -/
structure Page where
  /-- The characters so far, the last one first. -/
  written : List Char := []
  column : Nat := 0
  /-- Whether the next mark needs no blank in front of it. -/
  spaced : Bool := true
  /-- Whether the line holds nothing but indentation and marks that may share a line with what they
  mark. -/
  fresh : Bool := true
deriving Repr, Inhabited

namespace Page

/-- The text. -/
def text (p : Page) : String := String.ofList p.written.reverse

/-- Adds characters to the line. -/
def put (p : Page) (cs : List Char) : Page :=
  { p with written := cs.reverse ++ p.written, column := p.column + cs.length }

/-- Ends the line. -/
def endLine (p : Page) : Page :=
  { written := '\n' :: p.written, column := 0, spaced := true, fresh := true }

/-- Goes to a column for what is to begin there, on a new line unless the line is still fresh. -/
def indentTo (p : Page) (column : Nat) : Page :=
  let p := if !p.fresh || column < p.column || (p.column == column && !p.spaced) then p.endLine else p
  if p.column < column then
    { p.put (List.replicate (column - p.column) ' ') with spaced := true }
  else p

/-- Adds a mark apart from what is before it. -/
def mark (p : Page) (m : String) : Page :=
  { p.put (if p.spaced then m.toList else ' ' :: m.toList) with spaced := false, fresh := false }

/-- Adds a mark apart from what is before it, which leaves a fresh line fresh. -/
def lead (p : Page) (m : String) : Page := { p.mark m with fresh := p.fresh }

/-- Adds a mark right after what is before it. -/
def attach (p : Page) (m : String) : Page := { p.put m.toList with spaced := false, fresh := false }

/-- Goes on at a column of the next line in the midst of a scalar. -/
def turn (p : Page) (column : Nat) : Page :=
  { p.indentTo column with spaced := false, fresh := false }

/-- The column moves by the characters that are put on a page. -/
@[simp] theorem column_put (p : Page) (cs : List Char) :
    (p.put cs).column = p.column + cs.length := rfl

/-- Characters are put at the end of the text of a page. -/
@[simp] theorem toList_text_put (p : Page) (cs : List Char) :
    (p.put cs).text.toList = p.text.toList ++ cs := by simp [text, put]

end Page
end TestSkeleton.Yaml
