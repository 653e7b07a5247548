/-!
# Splitting and joining text

Pieces of a text between separator characters, the part before and after the last separator, the
removal of leading and trailing pieces, and the line ends of text files.
-/

namespace TestSkeleton.Text

/-- The pieces between occurrences of a character; a text without it is one piece. -/
def splitOn (sep : Char) (s : String) : List String := (s.toList.splitOn sep).map String.ofList

/-- What stands after the last occurrence of a character, or the whole text without one. -/
def afterLast (sep : Char) (s : String) : String :=
  String.ofList (s.toList.reverse.takeWhile (· ≠ sep)).reverse

/-- What stands before the last occurrence of a character, or nothing without one. -/
def beforeLast (sep : Char) (s : String) : String :=
  String.ofList (s.toList.reverse.dropWhile (· ≠ sep)).tail.reverse

/-- The text after a beginning, when the text starts with it. -/
def stripStart? (start s : String) : Option String :=
  if start.toList.isPrefixOf s.toList then some (String.ofList (s.toList.drop start.length))
  else none

/-- The text before an ending, when the text ends with it. -/
def stripEnd? (ending s : String) : Option String :=
  if ending.toList.isSuffixOf s.toList then
    some (String.ofList (s.toList.take (s.length - ending.length)))
  else none

/-- A text with every occurrence of a character replaced by another text. -/
def replaceChar (c : Char) (by_ : String) (s : String) : String :=
  String.ofList (s.toList.flatMap fun x => if x = c then by_.toList else [x])

/-- Characters whose line ends, written with a carriage return alone or before a line feed, are
single line feeds. -/
def unifyLineEnds : List Char → List Char
  | [] => []
  | '\r' :: '\n' :: rest => '\n' :: unifyLineEnds rest
  | c :: rest => (if c = '\r' then '\n' else c) :: unifyLineEnds rest

end TestSkeleton.Text
