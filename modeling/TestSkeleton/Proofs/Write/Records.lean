import Mathlib.Data.List.DropRight
import TestSkeleton.Proofs.Text.Split
import TestSkeleton.Write.Records

/-!
# Laws of records

What a text becomes when it is cut into records and these are written with a terminator. Line feeds
at the end of a text leave no records behind. All others become terminators, and one more terminator
follows the last record.

Specification: `SPEC_FULL.md:54`.
-/

namespace TestSkeleton.Records

variable {terminator : String}

/-! ### Joining -/

/-- One record is written with its terminator. -/
theorem join_singleton (terminator record : String) :
    join terminator [record] = record ++ terminator := by
  rw [join_cons, join_nil, String.append_empty]

/-- Records after records are written after them. -/
@[simp] theorem join_append (terminator : String) (rs rs' : List String) :
    join terminator (rs ++ rs') = join terminator rs ++ join terminator rs' := by
  rw [join, join, join, List.map_append, String.join_append]

/-- Records with terminators between them and after the last one. -/
theorem intercalate_append {rs : List String} (h : rs ≠ []) :
    terminator.intercalate rs ++ terminator = join terminator rs := by
  induction rs with
  | nil => exact absurd rfl h
  | cons record rs ih =>
    cases rs with
    | nil => rw [String.intercalate_singleton, join_singleton]
    | cons next rs =>
      rw [String.intercalate_cons_cons, String.append_assoc, ih (List.cons_ne_nil _ _),
        ← join_cons]

/-- Terminators between records come after those in front. -/
theorem join_append_intercalate (rs : List String) {rs' : List String} (h : rs' ≠ []) :
    join terminator rs ++ terminator.intercalate rs' = terminator.intercalate (rs ++ rs') := by
  by_cases hrs : rs = []
  · rw [hrs, join_nil, String.empty_append, List.nil_append]
  · rw [String.intercalate_append_of_ne_nil hrs h, ← intercalate_append hrs]

/-- The first of some records is the start of their text. -/
theorem exists_intercalate_cons (terminator record : String) (rs : List String) :
    ∃ after, terminator.intercalate (record :: rs) = record ++ after := by
  cases rs with
  | nil => exact ⟨"", by rw [String.intercalate_singleton, String.append_empty]⟩
  | cons next rs => exact ⟨_, by rw [String.intercalate_cons_cons, String.append_assoc]⟩

/-- A terminator between groups of records is an empty record there. -/
theorem intercalate_map_join (terminator : String) (groups : List (List String)) :
    terminator.intercalate (groups.map (join terminator)) =
      join terminator ([""].intercalate groups) := by
  induction groups with
  | nil => rfl
  | cons group groups ih =>
    cases groups with
    | nil => rw [List.map_singleton, String.intercalate_singleton, List.intercalate_singleton]
    | cons next groups =>
      rw [List.map_cons, List.map_cons, String.intercalate_cons_cons, ← List.map_cons, ih,
        List.intercalate_cons_cons, join_append, join_append, join_singleton, String.empty_append]

/-! ### Splitting and joining -/

/-- A text without the line feeds at its end. -/
def withoutFeeds (text : String) : String := String.ofList (text.toList.rdropWhile (· = '\n'))

/-- Only line feeds are left out. -/
theorem eq_withoutFeeds_append (text : String) :
    ∃ n, text = withoutFeeds text ++ String.ofList (List.replicate n '\n') := by
  refine ⟨(text.toList.rtakeWhile (· = '\n')).length, String.toList_inj.mp ?_⟩
  have hfeeds : text.toList.rtakeWhile (· = '\n') =
      List.replicate (text.toList.rtakeWhile (· = '\n')).length '\n' :=
    List.eq_replicate_length.mpr fun x hx => by simpa using List.mem_rtakeWhile_imp hx
  rw [withoutFeeds, String.toList_append, String.toList_ofList, String.toList_ofList, ← hfeeds,
    List.rdropWhile_append_rtakeWhile]

/-- Nothing is left of a text without its last line feeds exactly when it is line
feeds only. -/
theorem withoutFeeds_eq_empty_iff {text : String} :
    withoutFeeds text = "" ↔ text.toList.all (· = '\n') = true := by
  rw [withoutFeeds, ← String.toList_inj, String.toList_ofList]
  simp

/-- Empty records at the end are dropped. -/
theorem dropEmptyRight_append_empty (rs : List String) (n : Nat) :
    dropEmptyRight (rs ++ List.replicate n "") = dropEmptyRight rs := by
  have hempty : ∀ r ∈ List.replicate n "", (r == "") = true := fun r hr =>
    beq_iff_eq.mpr (List.eq_of_mem_replicate hr)
  rw [dropEmptyRight, dropEmptyRight, List.reverse_append, List.reverse_replicate,
    List.dropWhile_append_of_pos hempty]

/-- A last record with text is not dropped. -/
theorem dropEmptyRight_concat {rs : List String} {last : String} (h : last ≠ "") :
    dropEmptyRight (rs ++ [last]) = rs ++ [last] := by
  rw [dropEmptyRight, List.reverse_append, List.reverse_singleton, List.singleton_append,
    List.dropWhile_cons_of_neg (by simpa using h), List.reverse_cons, List.reverse_reverse]

/-- Every line feed at the end makes one empty record. -/
theorem splitOn_append_feeds (text : String) (n : Nat) :
    Text.splitOn '\n' (text ++ String.ofList (List.replicate n '\n')) =
      Text.splitOn '\n' text ++ List.replicate n "" := by
  induction n with
  | zero => simp
  | succ n ih =>
    have hfeed : text ++ String.ofList (List.replicate (n + 1) '\n') =
        text ++ String.ofList (List.replicate n '\n') ++ String.singleton '\n' ++ "" := by
      apply String.toList_inj.mp
      simp [List.replicate_succ']
    rw [hfeed, Text.splitOn_append, ih, List.replicate_succ', List.append_assoc]
    rfl

/-- A text that does not end in a line feed has no empty record at its end. -/
theorem dropEmptyRight_splitOn_withoutFeeds {text : String} (h : withoutFeeds text ≠ "") :
    dropEmptyRight (Text.splitOn '\n' (withoutFeeds text)) =
      Text.splitOn '\n' (withoutFeeds text) := by
  obtain ⟨init, last, hsplit⟩ := Text.exists_splitOn_eq '\n' (withoutFeeds text)
  rw [hsplit]
  refine dropEmptyRight_concat ?_
  rw [← (Text.around_last_of_splitOn hsplit).2, Text.afterLast, withoutFeeds,
    String.toList_ofList, List.rdropWhile, List.reverse_reverse]
  cases hrest : text.toList.reverse.dropWhile (· = '\n') with
  | nil =>
    refine absurd ?_ h
    rw [withoutFeeds, List.rdropWhile, hrest]
    rfl
  | cons x rest =>
    have hx : x ≠ '\n' := by
      have hnot := List.head_dropWhile_not (· = '\n') (by rw [hrest]; exact List.cons_ne_nil _ _)
      simpa [hrest] using hnot
    simp [hx]

/-- The pieces of a text are written as the text with a terminator for each separator. -/
theorem join_splitOn (terminator : String) (sep : Char) (text : String) :
    join terminator (Text.splitOn sep text) = Text.replaceChar sep terminator text ++ terminator := by
  obtain ⟨init, last, hsplit⟩ := Text.exists_splitOn_eq sep text
  have hne : Text.splitOn sep text ≠ [] := by simp [hsplit]
  rw [← intercalate_append hne, Text.intercalate_splitOn_replaceChar]

/-- What a text becomes in a file. Without a line feed it is one record, line feeds alone are none,
and of other texts the line feeds at the end are left out. -/
theorem join_split (terminator text : String) :
    join terminator (split text) =
      if '\n' ∉ text.toList then text ++ terminator
      else if text.toList.all (· = '\n') then ""
      else Text.replaceChar '\n' terminator (withoutFeeds text) ++ terminator := by
  by_cases hfeed : '\n' ∉ text.toList
  · rw [if_pos hfeed, split_of_not_mem hfeed, join_singleton]
  · rw [if_neg hfeed, split, if_pos (by simpa using hfeed)]
    obtain ⟨n, hn⟩ := eq_withoutFeeds_append text
    have hdrop : dropEmptyRight (Text.splitOn '\n' text) =
        dropEmptyRight (Text.splitOn '\n' (withoutFeeds text)) := by
      conv_lhs => rw [hn, splitOn_append_feeds, dropEmptyRight_append_empty]
    rw [hdrop]
    by_cases hall : text.toList.all (· = '\n') = true
    · rw [if_pos hall, withoutFeeds_eq_empty_iff.mpr hall]
      rfl
    · rw [if_neg hall, dropEmptyRight_splitOn_withoutFeeds (hall ∘ withoutFeeds_eq_empty_iff.mp),
        join_splitOn]

/-- A text that ends in one line feed, behind something else, is written as it is. -/
theorem join_split_push (text : String) {x : Char} (hx : x ≠ '\n') :
    join "\n" (split (text.push x ++ "\n")) = text.push x ++ "\n" := by
  have hchars : (text.push x ++ "\n").toList = text.toList ++ [x] ++ ['\n'] := by simp
  have hwithout : withoutFeeds (text.push x ++ "\n") = text.push x := by
    rw [withoutFeeds, hchars, List.rdropWhile_concat_pos _ _ _ (by simp),
      List.rdropWhile_concat_neg _ _ _ (by simpa using hx), ← String.toList_push,
      String.ofList_toList]
  have hnot : ¬ (text.push x ++ "\n").toList.all (· = '\n') = true := fun hall =>
    hx (of_decide_eq_true (List.all_eq_true.mp hall x (by simp [hchars])))
  have hfeed : "\n" = String.singleton '\n' := rfl
  rw [join_split, if_neg (by simp [hchars]), if_neg hnot, hwithout, hfeed,
    Text.replaceChar_singleton]

end TestSkeleton.Records
