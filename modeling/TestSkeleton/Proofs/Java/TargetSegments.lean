import Mathlib.Data.List.Nodup
import TestSkeleton.Java.Target
import TestSkeleton.Proofs.Text.Segments

/-!
# Segments of targets

The path of the test of a class: the segments of the base, those of the output root, one for each
part of the package and last the name of the file. Nothing of a qualified name is lost in it, so
classes with different names have different targets.
-/

namespace TestSkeleton

namespace Java

/-- Whether a text is a canonical name: dotted parts that are not empty, without slashes. -/
structure IsQualified (name : String) : Prop where
  part_ne_empty : ∀ part ∈ Text.splitOn '.' name, part ≠ ""
  no_slash : '/' ∉ name.toList

instance (name : String) : Decidable (IsQualified name) :=
  decidable_of_iff ((∀ part ∈ Text.splitOn '.' name, part ≠ "") ∧ '/' ∉ name.toList)
    ⟨fun h => ⟨h.1, h.2⟩, fun h => ⟨h.part_ne_empty, h.no_slash⟩⟩

namespace Placement

variable {l : Placement} {name last : String} {init : List String}

private theorem splitOn_relativeText_of_pieces (hsep : l.separator = "/")
    (hext : '/' ∉ l.extension.toList) {pieces : List (List Char)} {lastPiece : List Char}
    (hpieces : (name.toList.flatMap fun x => if x = '.' then ['/'] else [x]).splitOn '/' =
      pieces ++ [lastPiece]) :
    Text.splitOn '/' (l.relativeText name) =
      pieces.map String.ofList ++ [String.ofList lastPiece ++ ("Test" ++ l.extension)] := by
  have hfile : '/' ∉ ("Test" ++ l.extension).toList := by
    rw [String.toList_append, List.mem_append, not_or]
    exact ⟨by decide, hext⟩
  have htext : (l.relativeText name).toList =
      (name.toList.flatMap fun x => if x = '.' then ['/'] else [x]) ++
        ("Test" ++ l.extension).toList := by
    rw [relativeText, String.append_assoc, String.toList_append, Text.replaceChar,
      String.toList_ofList, hsep]
    rfl
  rw [Text.splitOn, htext, Text.splitOn_append_of_not_mem hpieces hfile, List.map_append,
    List.map_singleton, String.ofList_append, String.ofList_toList]

/-- The place of a test has one piece for each part of the name, the last one with the rest of the
name of the file. -/
theorem splitOn_relativeText (hsep : l.separator = "/") (hext : '/' ∉ l.extension.toList)
    (hslash : '/' ∉ name.toList) (hname : Text.splitOn '.' name = init ++ [last]) :
    Text.splitOn '/' (l.relativeText name) = init ++ [last ++ ("Test" ++ l.extension)] := by
  have hpieces : (name.toList.flatMap fun x => if x = '.' then ['/'] else [x]).splitOn '/' =
      init.map String.toList ++ [last.toList] := by
    rw [Text.splitOn_flatMap_replace hslash, ← Text.map_toList_splitOn, hname, List.map_append]
    rfl
  rw [splitOn_relativeText_of_pieces hsep hext hpieces, List.map_map, String.ofList_toList]
  simp only [Function.comp_def, String.ofList_toList, List.map_id']

private theorem isSegment_file {piece : String}
    (hslash : '/' ∉ (piece ++ ("Test" ++ l.extension)).toList) :
    isSegment (piece ++ ("Test" ++ l.extension)) = true := by
  have hT : 'T' ∈ (piece ++ ("Test" ++ l.extension)).toList := by simp
  refine isSegment_iff.mpr ⟨?_, ?_, hslash⟩
  · intro he
    rw [he] at hT
    exact absurd hT (by decide)
  · intro he
    rw [he] at hT
    exact absurd hT (by decide)

/-- The pieces of the place of a qualified name can all be segments. -/
theorem isSegment_of_mem_relativeText (hsep : l.separator = "/") (hext : '/' ∉ l.extension.toList)
    (h : IsQualified name) : ∀ p ∈ Text.splitOn '/' (l.relativeText name), isSegment p = true := by
  obtain ⟨init, last, hname⟩ := Text.exists_splitOn_eq '.' name
  have hpieces := splitOn_relativeText hsep hext h.no_slash hname
  intro p hp
  have hslash := Text.not_mem_of_mem_splitOn_text hp
  rw [hpieces, List.mem_append, List.mem_singleton] at hp
  rcases hp with hp | rfl
  · have hpart : p ∈ Text.splitOn '.' name := by
      rw [hname]
      exact List.mem_append_left _ hp
    refine isSegment_iff.mpr ⟨h.part_ne_empty p hpart, ?_, hslash⟩
    -- a part is no dot, since dots are what stands between the parts
    rintro rfl
    exact Text.not_mem_of_mem_splitOn_text hpart (by decide)
  · exact isSegment_file hslash

/-- The segments of a target are those of the base, those of the output root and those of the place
of the test. -/
theorem segments_target_eq (hsep : l.separator = "/") (c : ClassInfo) :
    (l.target c).segments = Path.segmentsOf l.base ++ Path.segmentsOf l.outputRoot ++
      Path.segmentsOf (l.relativeText c.canonicalName) := by
  rw [target, Path.ofString, hsep, Path.segmentsOf_append, Path.segmentsOf_append]

/-- The segments of a target: base, output root, the parts of the package and the name of the
file. -/
theorem segments_target (hsep : l.separator = "/") (hext : '/' ∉ l.extension.toList) {c : ClassInfo}
    (h : IsQualified c.canonicalName) (hname : Text.splitOn '.' c.canonicalName = init ++ [last]) :
    (l.target c).segments.map Segment.text =
      (Path.segmentsOf l.base ++ Path.segmentsOf l.outputRoot).map Segment.text ++
        (init ++ [last ++ ("Test" ++ l.extension)]) := by
  rw [segments_target_eq hsep, List.map_append,
    Path.map_text_segmentsOf (isSegment_of_mem_relativeText hsep hext h),
    splitOn_relativeText hsep hext h.no_slash hname]

/-- The segments of the place of a test, whatever the class is called. All of them but the last one
come from between the dots and slashes of the name, so they have no dots. The last one is named for
what follows the last dot or slash. -/
theorem exists_segments_relativeText (hsep : l.separator = "/") (hext : '/' ∉ l.extension.toList)
    (name : String) :
    ∃ mid file, Path.segmentsOf (l.relativeText name) = mid ++ [file] ∧
      (∀ s ∈ mid, '.' ∉ s.text.toList) ∧
      file.text = Text.afterLast '/' (Text.afterLast '.' name) ++ ("Test" ++ l.extension) := by
  obtain ⟨pieces, lastPiece, hpieces⟩ := (List.eq_nil_or_concat'
    ((name.toList.flatMap fun x => if x = '.' then ['/'] else [x]).splitOn
      '/')).resolve_left (List.splitOn_ne_nil _ _)
  have hrelative := splitOn_relativeText_of_pieces hsep hext hpieces
  have hslash : '/' ∉ (String.ofList lastPiece ++ ("Test" ++ l.extension)).toList :=
    Text.not_mem_of_mem_splitOn_text (by rw [hrelative]; simp)
  have hlast : String.ofList lastPiece = Text.afterLast '/' (Text.afterLast '.' name) := by
    have hreplaced : Text.splitOn '/' (Text.replaceChar '.' (String.singleton '/') name) =
        pieces.map String.ofList ++ [String.ofList lastPiece] := by
      rw [Text.splitOn, Text.replaceChar, String.toList_ofList, String.toList_singleton, hpieces,
        List.map_append, List.map_singleton]
    rw [← (Text.around_last_of_splitOn hreplaced).2, Text.afterLast_replaceChar]
  refine ⟨(pieces.map String.ofList).filterMap Segment.ofString?,
    ⟨_, isSegment_file hslash⟩, ?_, ?_, congrArg (· ++ ("Test" ++ l.extension)) hlast⟩
  · rw [Path.segmentsOf, hrelative, List.filterMap_append,
      List.filterMap_cons_some (dif_pos (isSegment_file hslash))]
    rfl
  · intro s hs hdot
    obtain ⟨piece, htext, hsegment⟩ := List.mem_filterMap.mp hs
    obtain ⟨xs, hxs, rfl⟩ := List.mem_map.mp htext
    rw [Segment.text_of_ofString? hsegment, String.toList_ofList] at hdot
    -- a dot in a piece would be one of the name, of which all dots have been replaced
    have hpiece : xs ∈ (name.toList.flatMap fun x => if x = '.' then ['/'] else [x]).splitOn '/' := by
      rw [hpieces]
      exact List.mem_append_left _ hxs
    obtain ⟨x, -, hx⟩ := List.mem_flatMap.mp (Text.mem_of_mem_splitOn hpiece hdot)
    split at hx
    · exact absurd hx (by decide)
    · next hne => exact hne (List.mem_singleton.mp hx).symm

/-- A target is below the base and the output root, whatever the class is called. Its last segment
is named for what follows the last dot or slash of the name. -/
theorem exists_segments_target (hsep : l.separator = "/") (hext : '/' ∉ l.extension.toList)
    (c : ClassInfo) :
    ∃ mid file, (l.target c).segments =
        Path.segmentsOf l.base ++ Path.segmentsOf l.outputRoot ++ mid ++ [file] ∧
      file.text =
        Text.afterLast '/' (Text.afterLast '.' c.canonicalName) ++ ("Test" ++ l.extension) := by
  obtain ⟨mid, file, hsegments, -, hfile⟩ := exists_segments_relativeText hsep hext c.canonicalName
  refine ⟨mid, file, ?_, hfile⟩
  rw [segments_target_eq hsep, hsegments]
  simp only [List.append_assoc]

/-- Classes with one target have one name. -/
theorem canonicalName_eq_of_target_eq (hsep : l.separator = "/")
    (hext : '/' ∉ l.extension.toList) {c c' : ClassInfo} (h : IsQualified c.canonicalName)
    (h' : IsQualified c'.canonicalName) (heq : l.target c = l.target c') :
    c.canonicalName = c'.canonicalName := by
  obtain ⟨init, last, hname⟩ := Text.exists_splitOn_eq '.' c.canonicalName
  obtain ⟨init', last', hname'⟩ := Text.exists_splitOn_eq '.' c'.canonicalName
  have hsegments := segments_target hsep hext h hname
  rw [heq, segments_target hsep hext h' hname', List.append_cancel_left_eq] at hsegments
  obtain ⟨hinit, hfile⟩ := List.append_inj' hsegments rfl
  have hlast : last' = last := String.append_left_inj _ |>.mp (List.singleton_inj.mp hfile)
  have hpieces : Text.splitOn '.' c.canonicalName = Text.splitOn '.' c'.canonicalName := by
    rw [hname, hname', hinit, hlast]
  exact Text.splitOn_injective hpieces

/-- Classes with different names have different targets. -/
theorem nodup_targets (hsep : l.separator = "/") (hext : '/' ∉ l.extension.toList)
    {classes : List ClassInfo} (hnames : (classes.map ClassInfo.canonicalName).Nodup)
    (h : ∀ c ∈ classes, IsQualified c.canonicalName) : (classes.map l.target).Nodup := by
  rw [List.Nodup, List.pairwise_map] at hnames ⊢
  exact hnames.imp_of_mem fun hc hc' hne heq =>
    hne (canonicalName_eq_of_target_eq hsep hext (h _ hc) (h _ hc') heq)

end Placement
end Java
end TestSkeleton
