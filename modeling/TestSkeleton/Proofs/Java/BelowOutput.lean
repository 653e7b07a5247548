import TestSkeleton.Proofs.Disk.Follow
import TestSkeleton.Proofs.Java.Agreement

/-!
# Targets below the output root

A class cannot be written outside the output directory, whatever it is called. The dots of its name
become slashes, so no step upwards is left in what the target adds to the base and the output root,
and the place of the target is below that of the output directory.

Specification: `SPEC_FULL.md:49`.
-/

namespace TestSkeleton.Java.Placement

variable {l : Placement}

/-- What a target adds to the base and the output root has no step upwards in it: the name of the
file has a letter in it, and what comes before it has no dots. -/
theorem up_not_mem_relativeText (hsep : l.separator = "/") (hext : '/' ∉ l.extension.toList)
    (name : String) : Segment.up ∉ Path.segmentsOf (l.relativeText name) := by
  obtain ⟨mid, file, hrelative, hdots, hfile⟩ := exists_segments_relativeText hsep hext name
  rw [hrelative, List.mem_append, List.mem_singleton, not_or]
  refine ⟨fun hmem => hdots _ hmem (by decide), ?_⟩
  rintro rfl
  have hT : 'T' ∈ Segment.up.text.toList := by rw [hfile]; simp
  exact absurd hT (by decide)

/-- A slash in front of the output root changes no segment. -/
theorem segments_target_slash (hsep : l.separator = "/") (c : ClassInfo) :
    ({ l with outputRoot := "/" ++ l.outputRoot }.target c).segments = (l.target c).segments := by
  let slashed : Placement := { l with outputRoot := "/" ++ l.outputRoot }
  have hslashed : (slashed.target c).segments = Path.segmentsOf l.base ++
      Path.segmentsOf ("/" ++ l.outputRoot) ++ Path.segmentsOf (l.relativeText c.canonicalName) :=
    slashed.segments_target_eq hsep c
  have hroot : "/" ++ l.outputRoot = "" ++ "/" ++ l.outputRoot := rfl
  rw [hslashed, segments_target_eq hsep, hroot, Path.segmentsOf_append, Path.segmentsOf_empty,
    List.nil_append]

/-- The target of a class has the segments of the base, those of the output root and at least one
more, and none of these is a step upwards. The last one ends as test files do. Hence the place of
the target is below the place that base and output root lead to. A slash in front of the output root
changes no segment, and where the base has more than slashes in it the target starts where the base
does and does not change at all. -/
theorem target_below_output (hsep : l.separator = "/") (hext : '/' ∉ l.extension.toList)
    (c : ClassInfo) :
    ∃ below file, (l.target c).segments =
        (Path.ofString l.base).segments ++ (Path.ofString l.outputRoot).segments ++ below ∧
      below.getLast? = some file ∧ (∃ stem, file.text = stem ++ ("Test" ++ l.extension)) ∧
      Segment.up ∉ below ∧
      (l.target c).place = below.reverse ++
        Place.walk [] ((Path.ofString l.base).segments ++ (Path.ofString l.outputRoot).segments) ∧
      ({ l with outputRoot := "/" ++ l.outputRoot }.target c).segments = (l.target c).segments ∧
      ((∃ x ∈ l.base.toList, x ≠ '/') →
        (l.target c).anchor = (Path.ofString l.base).anchor ∧
        { l with outputRoot := "/" ++ l.outputRoot }.target c = l.target c) := by
  obtain ⟨mid, file, hrelative, -, hfile⟩ :=
    exists_segments_relativeText hsep hext c.canonicalName
  have hsegments : (l.target c).segments = (Path.ofString l.base).segments ++
      (Path.ofString l.outputRoot).segments ++ Path.segmentsOf (l.relativeText c.canonicalName) :=
    segments_target_eq hsep c
  have hup := up_not_mem_relativeText hsep hext c.canonicalName
  have hslash := segments_target_slash hsep c
  refine ⟨_, file, hsegments, by rw [hrelative, List.getLast?_concat], ⟨_, hfile⟩, hup, ?_, hslash,
    fun hbase => ⟨anchor_target c hbase, ?_⟩⟩
  · rw [Path.place, hsegments, Place.walk_append, Place.walk_of_not_mem_up hup]
  · have hanchor : ({ l with outputRoot := "/" ++ l.outputRoot }.target c).anchor =
        (l.target c).anchor := by
      rw [anchor_target c hbase]
      exact anchor_target c hbase
    exact congrArg₂ Path.mk hanchor hslash

/-- Steps upwards and slashes in a name are gone from the target, and those of the base and of an
absolute output root stay. -/
theorem target_below_output_of_steps :
    let l : Placement := ⟨"/p/../q", "/etc/..", ".java", "/"⟩
    let c : ClassInfo := { canonicalName := "../../x..y//../Widget" }
    l.separator = "/" ∧ '/' ∉ l.extension.toList ∧
      (l.target c).segments.map Segment.text =
        ["p", "..", "q", "etc", "..", "x", "y", "WidgetTest.java"] ∧
      ∃ below, (l.target c).segments =
          (Path.ofString "/p/../q").segments ++ (Path.ofString "/etc/..").segments ++ below ∧
        Segment.up ∉ below ∧
        (l.target c).place = below.reverse ++ [⟨"q", rfl⟩] := by
  intro l c
  have hext : '/' ∉ l.extension.toList := by decide
  obtain ⟨below, file, hsegments, -, -, hup, hplace, -⟩ := l.target_below_output rfl hext c
  have hwalk : Place.walk []
      ((Path.ofString l.base).segments ++ (Path.ofString l.outputRoot).segments) =
        [⟨"q", rfl⟩] := by decide
  exact ⟨rfl, hext, by decide, below, hsegments, hup, hwalk ▸ hplace⟩

end TestSkeleton.Java.Placement
