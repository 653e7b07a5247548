/-!
# Blank characters

White space as the Unicode character database has it, the information separators U+001C to U+001F
included, and the removal of blanks at the ends of a text. The zero-width space is not blank.
-/

namespace TestSkeleton.Text

/-- Whether a character is white space. -/
def isBlank (c : Char) : Bool :=
  let n := c.toNat
  (0x09 ≤ n && n ≤ 0x0d) || (0x1c ≤ n && n ≤ 0x20) || n == 0x85 || n == 0xa0 || n == 0x1680
    || (0x2000 ≤ n && n ≤ 0x200a) || n == 0x2028 || n == 0x2029 || n == 0x202f || n == 0x205f
    || n == 0x3000

/-- Characters without the blanks they start with. -/
def dropBlanks (cs : List Char) : List Char := cs.dropWhile isBlank

/-- Characters without the blanks they end with. -/
def dropBlanksRight (cs : List Char) : List Char := (cs.reverse.dropWhile isBlank).reverse

/-- A text without the blanks at either end. -/
def trim (s : String) : String := String.ofList (dropBlanksRight (dropBlanks s.toList))

/-- A text without the blanks at its end. -/
def trimRight (s : String) : String := String.ofList (dropBlanksRight s.toList)

/-- Trimming drops the blanks at both ends. -/
@[simp] theorem toList_trim (s : String) :
    (trim s).toList = dropBlanksRight (dropBlanks s.toList) := by simp [trim]

/-- Trimming the right end drops the blanks there. -/
@[simp] theorem toList_trimRight (s : String) :
    (trimRight s).toList = dropBlanksRight s.toList := by simp [trimRight]

end TestSkeleton.Text
