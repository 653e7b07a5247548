import TestSkeleton.Path
import TestSkeleton.Proofs.Text.Split

/-!
# Segments of paths

The segments of the text of a path, read back from between its slashes. The text of a path says all
about it, and the paths above it are those that lack some of its last segments.
-/

namespace TestSkeleton

/-- What a text has to be to stand as a segment of a path. -/
theorem isSegment_iff {s : String} : isSegment s = true ↔ s ≠ "" ∧ s ≠ "." ∧ '/' ∉ s.toList := by
  simp [isSegment, and_assoc]

/-- A segment is fixed by its text. -/
theorem Segment.text_injective : Function.Injective Segment.text := by
  rintro ⟨s, hs⟩ ⟨t, ht⟩ rfl
  rfl

/-- A segment that is read from a text has that text. -/
theorem Segment.text_of_ofString? {s : String} {segment : Segment}
    (h : Segment.ofString? s = some segment) : segment.text = s := by
  rw [ofString?] at h
  split at h
  · exact congrArg Segment.text (Option.some.inj h).symm
  · cases h

/-- A segment starts with a character that is no slash. -/
theorem Segment.exists_cons_text (s : Segment) : ∃ x xs, s.text.toList = x :: xs ∧ x ≠ '/' := by
  obtain ⟨hne, -, hslash⟩ := isSegment_iff.mp s.isSegment_text
  cases hs : s.text.toList with
  | nil => exact absurd (String.toList_eq_nil_iff.mp hs) hne
  | cons x xs =>
    refine ⟨x, xs, rfl, ?_⟩
    rintro rfl
    exact hslash (hs ▸ List.mem_cons_self)

namespace Path

/-- The segments on both sides of a slash. -/
theorem segmentsOf_append (s t : String) :
    segmentsOf (s ++ "/" ++ t) = segmentsOf s ++ segmentsOf t := by
  have hslash : "/" = String.singleton '/' := rfl
  rw [segmentsOf, hslash, Text.splitOn_append, List.filterMap_append]
  rfl

/-- What follows a text that is not only slashes does not change where its path starts. -/
theorem anchorOf_append {xs : List Char} (h : ∃ x ∈ xs, x ≠ '/') (ys : List Char) :
    anchorOf (xs ++ ys) = anchorOf xs := by
  match xs with
  | [] => simp at h
  | [a] =>
    have ha : a ≠ '/' := by simpa using h
    simp [anchorOf, ha]
  | [a, b] =>
    by_cases ha : a = '/' <;> by_cases hb : b = '/' <;> simp_all [anchorOf]
  | a :: b :: c :: xs =>
    by_cases ha : a = '/' <;> by_cases hb : b = '/' <;> simp_all [anchorOf]

/-- A text of which every piece can be a segment is read without loss. -/
theorem map_text_segmentsOf {s : String} (h : ∀ p ∈ Text.splitOn '/' s, isSegment p = true) :
    (segmentsOf s).map Segment.text = Text.splitOn '/' s := by
  rw [segmentsOf]
  generalize Text.splitOn '/' s = pieces at h
  induction pieces with
  | nil => rfl
  | cons p pieces ih =>
    have hp : Segment.ofString? p = some ⟨p, h p (by simp)⟩ := dif_pos _
    rw [List.filterMap_cons, hp, List.map_cons, ih fun q hq => h q (by simp [hq])]

/-- The segments of texts between slashes. -/
theorem segmentsOf_intercalate (segments : List Segment) :
    segmentsOf ("/".intercalate (segments.map Segment.text)) = segments := by
  have hone : ∀ s : Segment, segmentsOf s.text = [s] := by
    intro s
    have hpiece : Text.splitOn '/' s.text = [s.text] := by
      rw [Text.splitOn, List.splitOn_eq_singleton (isSegment_iff.mp s.isSegment_text).2.2,
        List.map_singleton, String.ofList_toList]
    rw [segmentsOf, hpiece]
    exact List.filterMap_cons_some (dif_pos s.isSegment_text)
  induction segments with
  | nil => exact segmentsOf_empty
  | cons s rest ih =>
    cases rest with
    | nil => simpa using hone s
    | cons t rest =>
      rw [List.map_cons, List.map_cons, String.intercalate_cons_cons, ← List.map_cons,
        segmentsOf_append, hone, ih]
      rfl

/-- The text of a path has its segments. -/
theorem segmentsOf_text (p : Path) : segmentsOf p.text = p.segments := by
  rw [text]
  split
  · next hp =>
    subst hp
    decide
  · obtain ⟨anchor, segments⟩ := p
    have hjoined := segmentsOf_intercalate segments
    cases anchor with
    | relative => simpa [Anchor.text] using hjoined
    | root =>
      have htext : Anchor.root.text ++ "/".intercalate (segments.map Segment.text) =
          "" ++ "/" ++ "/".intercalate (segments.map Segment.text) := rfl
      rw [htext, segmentsOf_append, segmentsOf_empty, hjoined]
      rfl
    | doubleRoot =>
      have htext : Anchor.doubleRoot.text ++ "/".intercalate (segments.map Segment.text) =
          "/" ++ "/" ++ "/".intercalate (segments.map Segment.text) := rfl
      have hslash : segmentsOf "/" = [] := by decide
      rw [htext, segmentsOf_append, hslash, hjoined]
      rfl

private theorem exists_cons_intercalate (s : Segment) (rest : List Segment) :
    ∃ x xs, ("/".intercalate ((s :: rest).map Segment.text)).toList = x :: xs ∧ x ≠ '/' := by
  obtain ⟨x, xs, hs, hx⟩ := s.exists_cons_text
  have hjoined : ∃ ys, ("/".intercalate ((s :: rest).map Segment.text)).toList = x :: ys := by
    rw [String.toList_intercalate, List.map_cons, List.map_cons, hs]
    cases rest <;> simp [List.intercalate_cons_cons]
  obtain ⟨ys, hys⟩ := hjoined
  exact ⟨x, ys, hys, hx⟩

/-- The text of a path has more than slashes in it unless the path is an anchor alone. -/
theorem exists_ne_slash_text (p : Path) (h : p.anchor = .relative ∨ p.segments ≠ []) :
    ∃ x ∈ p.text.toList, x ≠ '/' := by
  rw [text]
  split
  · exact ⟨'.', by decide, by decide⟩
  · next hp =>
    obtain ⟨anchor, segments⟩ := p
    cases segments with
    | nil =>
      obtain rfl : anchor = .relative := h.resolve_right fun hne => hne rfl
      exact absurd rfl hp
    | cons s rest =>
      obtain ⟨x, xs, hjoined, hx⟩ := exists_cons_intercalate s rest
      refine ⟨x, ?_, hx⟩
      rw [String.toList_append, hjoined]
      exact List.mem_append_right _ List.mem_cons_self

/-- A path starts where its text says. -/
theorem anchorOf_text (p : Path) : anchorOf p.text.toList = p.anchor := by
  obtain ⟨anchor, segments⟩ := p
  cases segments with
  | nil => cases anchor <;> rfl
  | cons s rest =>
    obtain ⟨x, xs, hjoined, hx⟩ := exists_cons_intercalate s rest
    rw [text, if_neg (by simp), String.toList_append, hjoined]
    cases anchor <;> simp [Anchor.text, anchorOf, hx]

/-- A path is read back from its text. -/
theorem ofString_text (p : Path) : ofString p.text = p := by
  rw [ofString, anchorOf_text, segmentsOf_text]

/-- Paths with the same text have the same segments. -/
theorem segments_eq_of_text_eq {p q : Path} (h : p.text = q.text) : p.segments = q.segments := by
  rw [← segmentsOf_text p, h, segmentsOf_text q]

/-- The directory of a path and its name have its segments. -/
theorem segments_eq_of_parent_of_name {p q : Path} (hp : p.segments ≠ []) (hq : q.segments ≠ [])
    (hparent : p.parent.segments = q.parent.segments) (hname : p.name = q.name) :
    p.segments = q.segments := by
  have hlast : p.segments.getLast hp = q.segments.getLast hq := by
    apply Segment.text_injective
    simpa [name, List.getLast?_eq_some_getLast hp, List.getLast?_eq_some_getLast hq] using hname
  have hinit : p.segments.dropLast = q.segments.dropLast := hparent
  rw [← List.dropLast_append_getLast hp, hinit, hlast, List.dropLast_append_getLast hq]

/-- A path is above another one if it starts at the same place and lacks some of its last
segments. -/
theorem mem_ancestors_iff {dir p : Path} :
    dir ∈ p.ancestors ↔
      dir.anchor = p.anchor ∧ ∃ below, below ≠ [] ∧ p.segments = dir.segments ++ below := by
  have hancestors : p.ancestors = (List.range p.segments.length).map fun n =>
      (⟨p.anchor, p.segments.take (p.segments.length - (n + 1))⟩ : Path) := by
    rw [ancestors, selfAndAncestors, List.range_succ_eq_map, List.map_cons, List.tail_cons,
      List.map_map]
    rfl
  rw [hancestors, List.mem_map]
  constructor
  · rintro ⟨n, hn, rfl⟩
    rw [List.mem_range] at hn
    refine ⟨rfl, p.segments.drop (p.segments.length - (n + 1)), ?_,
      (List.take_append_drop _ _).symm⟩
    rw [Ne, List.drop_eq_nil_iff]
    omega
  · rintro ⟨hanchor, below, hbelow, hsegments⟩
    have hlength := congrArg List.length hsegments
    have hpos := List.length_pos_iff.mpr hbelow
    rw [List.length_append] at hlength
    refine ⟨below.length - 1, List.mem_range.mpr (by omega), ?_⟩
    have htake : p.segments.length - (below.length - 1 + 1) = dir.segments.length := by omega
    rw [htake, hsegments, List.take_left, ← hanchor]

end Path

end TestSkeleton
