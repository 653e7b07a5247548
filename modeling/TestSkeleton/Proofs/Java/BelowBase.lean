import TestSkeleton.Proofs.Java.Agreement

/-!
# Targets below the base directory

Whether the base directory is among the directories above the target of a class, its anchor
included. The target is made of texts with slashes between them, and where the base is an anchor
alone its own slashes meet the one behind it: what starts with two slashes is another place than
what starts with one or with three.

Specification: `SPEC_FULL.md:49`.
-/

namespace TestSkeleton

/-- Two leading slashes are an anchor of their own unless a third one follows. -/
theorem Path.anchorOf_slashes (cs : List Char) :
    anchorOf ('/' :: '/' :: cs) = if cs.head? = some '/' then .root else .doubleRoot := by
  cases cs <;> simp [anchorOf]

namespace Java.Placement

variable {base : Path} {outputRoot extension : String}

private theorem head?_rest_iff (outputRoot : String) (s : List Char) :
    (outputRoot.toList ++ '/' :: s).head? = some '/' ↔
      outputRoot = "" ∨ outputRoot.toList.head? = some '/' := by
  cases hroot : outputRoot.toList with
  | nil => simp [String.toList_eq_nil_iff.mp hroot]
  | cons x xs =>
    have hne : outputRoot ≠ "" := by
      rintro rfl
      cases hroot
    simp [hne]

/-- Behind a base that is an anchor alone, the slash in front of the output root adds to the slashes
of the anchor: one slash and a name become two, two slashes become three or more. -/
theorem anchor_target_of_segments_eq_nil (hanchor : base.anchor ≠ .relative)
    (hsegments : base.segments = []) (c : ClassInfo) :
    ({ base := base.text, outputRoot, extension : Placement }.target c).anchor =
      if base.anchor = .doubleRoot ∨ outputRoot = "" ∨ outputRoot.toList.head? = some '/' then .root
      else .doubleRoot := by
  let l : Placement := { base := base.text, outputRoot, extension }
  let rest := outputRoot.toList ++ '/' :: (l.relativeText c.canonicalName).toList
  have htarget : (l.target c).anchor = Path.anchorOf (base.text.toList ++ '/' :: rest) := by
    rw [target, Path.ofString]
    simp [l, rest]
  have hrest := head?_rest_iff outputRoot (l.relativeText c.canonicalName).toList
  obtain ⟨anchor, segments⟩ := base
  obtain rfl : segments = [] := hsegments
  rw [htarget]
  cases anchor with
  | relative => exact absurd rfl hanchor
  | root =>
    have htext : (⟨.root, []⟩ : Path).text.toList = ['/'] := by decide
    rw [htext, List.cons_append, List.nil_append, Path.anchorOf_slashes]
    simp only [rest, hrest, reduceCtorEq, false_or]
  | doubleRoot =>
    have htext : (⟨.doubleRoot, []⟩ : Path).text.toList = ['/', '/'] := by decide
    rw [htext, List.cons_append, List.cons_append, List.nil_append, Path.anchorOf_slashes]
    simp

/-- A target starts where its base does, unless the base is an anchor alone: then it does so exactly
if the base is a single slash and the output root is empty or starts with another one. -/
theorem anchor_target_eq_iff (c : ClassInfo) :
    ({ base := base.text, outputRoot, extension : Placement }.target c).anchor = base.anchor ↔
      base.anchor = .relative ∨ base.segments ≠ [] ∨
        base.anchor = .root ∧ (outputRoot = "" ∨ outputRoot.toList.head? = some '/') := by
  by_cases hnamed : base.anchor = .relative ∨ base.segments ≠ []
  · have hanchor := anchor_target (l := { base := base.text, outputRoot, extension }) c
      (base.exists_ne_slash_text hnamed)
    rw [Path.ofString_text] at hanchor
    exact iff_of_true hanchor (or_assoc.mp (.inl hnamed))
  · rw [not_or, not_not] at hnamed
    obtain ⟨hrelative, hsegments⟩ := hnamed
    rw [anchor_target_of_segments_eq_nil hrelative hsegments]
    cases hanchor : base.anchor with
    | relative => exact absurd hanchor hrelative
    | root => simp [hsegments, or_iff_not_imp_left]
    | doubleRoot => simp [hsegments]

/-- A target has the segments of its base and more, and the base is one of the paths above it
exactly if the target starts where the base does. That fails only where the base is an anchor alone:
for two slashes always, and for a single one if the output root is a name, so that the slash between
them makes two slashes of one. -/
theorem base_mem_ancestors_target_iff (base : Path) (outputRoot : String) {extension : String}
    (hext : '/' ∉ extension.toList) (c : ClassInfo) :
    let l : Placement := { base := base.text, outputRoot, extension }
    (∃ below, below ≠ [] ∧ (l.target c).segments = base.segments ++ below) ∧
      (base ∈ (l.target c).ancestors ↔ (l.target c).anchor = base.anchor) ∧
      ((l.target c).anchor = base.anchor ↔ base.anchor = .relative ∨ base.segments ≠ [] ∨
        base.anchor = .root ∧ (outputRoot = "" ∨ outputRoot.toList.head? = some '/')) := by
  intro l
  obtain ⟨mid, file, hsegments, -⟩ := exists_segments_target (l := l) rfl hext c
  have hbelow : (l.target c).segments =
      base.segments ++ (Path.segmentsOf outputRoot ++ mid ++ [file]) := by
    have hbase : Path.segmentsOf l.base = base.segments := base.segmentsOf_text
    rw [hsegments, hbase]
    simp only [List.append_assoc, l]
  have hne : Path.segmentsOf outputRoot ++ mid ++ [file] ≠ [] := by simp
  refine ⟨⟨_, hne, hbelow⟩, ?_, anchor_target_eq_iff c⟩
  rw [Path.mem_ancestors_iff]
  exact ⟨fun h => h.1.symm, fun h => ⟨h.symm, _, hne, hbelow⟩⟩

/-- Below the root directory the target starts with two slashes, so the root is not above it. -/
theorem root_not_mem_ancestors_target :
    ¬ ∀ (base : Path) (outputRoot extension : String), '/' ∉ extension.toList →
      ∀ c, base ∈
        ({ base := base.text, outputRoot, extension : Placement }.target c).ancestors := by
  intro h
  have hmem := h ⟨.root, []⟩ "src/test/java" ".java" (by decide) { canonicalName := "a.First" }
  exact absurd hmem (by decide)

/-- The base is above the target for a relative base, and for the root directory with a slash in
front of the output root. -/
theorem base_mem_ancestors_target_of_relative :
    let root : Path := ⟨.root, []⟩
    let c : ClassInfo := { canonicalName := "a.First" }
    '/' ∉ ".java".toList ∧
      ({} : Path) ∈ ({ base := ".", outputRoot := "out" : Placement }.target c).ancestors ∧
      root ∈ ({ base := "/", outputRoot := "/out" : Placement }.target c).ancestors := by
  intro root c
  have hext : '/' ∉ ".java".toList := by decide
  obtain ⟨-, hempty, hrelative⟩ := base_mem_ancestors_target_iff {} "out" hext c
  obtain ⟨-, hroot, hslash⟩ := base_mem_ancestors_target_iff root "/out" hext c
  exact ⟨hext, hempty.mpr (hrelative.mpr (.inl rfl)),
    hroot.mpr (hslash.mpr (.inr (.inr ⟨rfl, .inr (by decide)⟩)))⟩

end Java.Placement
end TestSkeleton
