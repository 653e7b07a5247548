import Mathlib.Data.List.Basic
import TestSkeleton.Write.Records

/-!
# Lines of a text

A text is read line by line by cutting it at every line end, which may have several characters.
Lines that are written one after the other, each with its line end, are read back; behind the last
line end an empty line is left.
-/

namespace TestSkeleton.Text

/-- Cuts characters at every occurrence of a separator, from the left. The number says how many
characters of an occurrence are still to be passed over. -/
def cut (sep : List Char) : Nat → List Char → List (List Char)
  | _, [] => [[]]
  | left + 1, _ :: rest => cut sep left rest
  | 0, c :: rest =>
    if sep.isPrefixOf (c :: rest) then [] :: cut sep (sep.length - 1) rest
    else (cut sep 0 rest).modifyHead (c :: ·)

/-- The lines of a text. -/
def lines (lineEnd s : String) : List String := (cut lineEnd.toList 0 s.toList).map String.ofList

variable {c : Char} {sep line : List Char}

/-- The rest of an occurrence is passed over. -/
theorem cut_append (sep xs rest : List Char) :
    cut sep xs.length (xs ++ rest) = cut sep 0 rest := by
  induction xs with
  | nil => rfl
  | cons x xs ih => exact ih

/-- Characters in which no separator starts are the line before the next one. -/
theorem cut_line_append (h : c ∉ line) (rest : List Char) :
    cut (c :: sep) 0 (line ++ (c :: sep) ++ rest) = line :: cut (c :: sep) 0 rest := by
  induction line with
  | nil =>
    have hstart : (c :: sep).isPrefixOf (c :: (sep ++ rest)) = true :=
      List.isPrefixOf_iff_prefix.mpr ⟨rest, rfl⟩
    rw [List.nil_append, List.cons_append, cut, if_pos hstart, List.length_cons,
      Nat.add_sub_cancel, cut_append]
  | cons x line ih =>
    rw [List.mem_cons, not_or] at h
    have hnot : ¬ (c :: sep).isPrefixOf (x :: (line ++ (c :: sep) ++ rest)) = true := by
      simp [List.isPrefixOf, h.1]
    rw [List.cons_append, List.cons_append, cut, if_neg hnot, ih h.2]
    rfl

/-- Lines that are written with their line ends are read back. -/
theorem lines_join {lineEnd : String} (hlineEnd : lineEnd.toList = c :: sep) {ls : List String}
    (h : ∀ line ∈ ls, c ∉ line.toList) : lines lineEnd (Records.join lineEnd ls) = ls ++ [""] := by
  induction ls with
  | nil => rfl
  | cons line ls ih =>
    have hline : c ∉ line.toList := h line List.mem_cons_self
    have hrest := ih fun l hl => h l (List.mem_cons_of_mem _ hl)
    rw [lines, hlineEnd] at hrest
    rw [lines, Records.join_cons, String.toList_append, String.toList_append, hlineEnd,
      cut_line_append hline, List.map_cons, hrest, String.ofList_toList, List.cons_append]

/-- Only whole line ends are cut at. -/
example : lines "\r\n" "a\r\nb\nc\r\n" = ["a", "b\nc", ""] := by decide

end TestSkeleton.Text
