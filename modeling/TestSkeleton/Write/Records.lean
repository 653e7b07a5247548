import TestSkeleton.Text.Split

/-!
# Records

A body is written record by record. Records end at line feeds; the empty ones at the end of a body
with line feeds are dropped, so that no blank lines end a file. Carriage returns separate nothing.

Record splitting of `stubwright-io`; specification `SPEC_FULL.md:54`.
-/

namespace TestSkeleton.Records

/-- Texts without the empty ones at the end. -/
def dropEmptyRight (records : List String) : List String :=
  (records.reverse.dropWhile (· == "")).reverse

/-- The records of a text. A text without a line feed is a single record, even when empty.
`split_records`, `SPEC_FULL.md:54`. -/
def split (text : String) : List String :=
  if text.toList.contains '\n' then dropEmptyRight (Text.splitOn '\n' text) else [text]

/-- Records with the terminator after each of them. -/
def join (terminator : String) (records : List String) : String :=
  String.join (records.map (· ++ terminator))

/-- A text without line feeds is one record. -/
theorem split_of_not_mem {text : String} (h : '\n' ∉ text.toList) : split text = [text] := by
  simp [split, h]

/-- No records are written as nothing. -/
@[simp] theorem join_nil (terminator : String) : join terminator [] = "" := by simp [join]

/-- The first record is written first, with its terminator. -/
@[simp] theorem join_cons (terminator record : String) (records : List String) :
    join terminator (record :: records) = record ++ terminator ++ join terminator records := by
  simp [join]

end TestSkeleton.Records
