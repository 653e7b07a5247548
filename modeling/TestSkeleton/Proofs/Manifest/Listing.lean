import TestSkeleton.Proofs.Disk.Files
import TestSkeleton.Proofs.Disk.Found
import TestSkeleton.Proofs.Manifest.Faults
import TestSkeleton.Proofs.Text.Order
import TestSkeleton.Proofs.Text.Segments

/-!
# Listed manifests

The manifests below a directory are sorted by their paths, so it does not matter in which order a
disk lists its files. What a descriptor path loads depends on the files at and below it only: it is
the same on a disk that has changed elsewhere.
-/

namespace TestSkeleton.Manifest

open Java

variable {disk disk' : Disk} {dir path : Path} {f g : Path × ByteArray}

/-! ### Listings of two disks -/

/-- A listed file is fixed by the texts of its segments. -/
theorem eq_of_texts_eq (hf : f ∈ disk.filesBelow dir) (hg : g ∈ disk.filesBelow dir)
    (h : f.1.segments.map Segment.text = g.1.segments.map Segment.text) : f = g :=
  Disk.eq_of_segments_eq hf hg (Segment.text_injective.list_map h)

/-- Disks with the same files below a directory have the same manifests there, in the same order. -/
theorem manifestsBelow_eq (h : ∀ f, f ∈ disk.filesBelow dir ↔ f ∈ disk'.filesBelow dir) :
    manifestsBelow disk dir = manifestsBelow disk' dir := by
  have hperm : (disk.filesBelow dir).Perm (disk'.filesBelow dir) :=
    (List.perm_ext_iff_of_nodup (disk.nodup_filesBelow dir) (disk'.nodup_filesBelow dir)).mpr h
  have hsort := Text.mergeSort_eq_of_perm hperm fun f hf g hg => eq_of_texts_eq hf hg
  exact congrArg (List.filterMap _) hsort

/-! ### Loading after a change elsewhere -/

variable {files dirs : Place → Prop} {classes : List ClassInfo}

/-- A change away from a directory keeps the files below it. -/
theorem mem_filesBelow_stays (h : Disk.Frame disk disk' files dirs)
    (haway : ∀ q, dir.place <:+ q → ¬ files q) (hloc : disk.locate dir = .ok dir.place)
    (hloc' : disk'.locate dir = .ok dir.place) (f : Path × ByteArray) :
    f ∈ disk.filesBelow dir ↔ f ∈ disk'.filesBelow dir := by
  obtain ⟨p, content⟩ := f
  have hbelow : ∀ names : List Segment, ¬ files (names.reverse ++ dir.place) := fun names =>
    haway _ (List.suffix_append _ _)
  rw [Disk.mem_filesBelow hloc, Disk.mem_filesBelow hloc']
  constructor
  · rintro ⟨names, hne, hp, hlook⟩
    exact ⟨names, hne, hp, h.file_stays _ _ (hbelow names) hlook⟩
  · rintro ⟨names, hne, hp, hlook⟩
    exact ⟨names, hne, hp, h.new_file _ _ (hbelow names) hlook⟩

/-- A descriptor path loads what it has loaded before, when no file at or below it has changed. -/
theorem load_stays (h : Disk.Frame disk disk' files dirs)
    (haway : ∀ q, path.place <:+ q → ¬ files q) (hload : load disk path = .ok classes) :
    load disk' path = .ok classes := by
  cases hfound : disk.find? path with
  | error e =>
    rw [load, Disk.pathExists, hfound] at hload
    cases hload
  | ok found =>
    rw [load_of_find hfound] at hload
    rcases found with _ | ⟨here, _ | content⟩
    · cases hload
    · obtain rfl : here = path.place := (Disk.find?_eq_some.mp hfound).1
      have hfound' := Disk.find?_of_directories hfound h.directory_stays
        (h.directory_stays _ (Disk.find?_eq_some.mp hfound).2.2.2)
      have hloc := (Disk.find?_eq_some.mp hfound).2.2.1
      have hloc' := (Disk.find?_eq_some.mp hfound').2.2.1
      rw [load_of_find hfound', ← manifestsBelow_eq (mem_filesBelow_stays h haway hloc hloc')]
      exact hload
    · obtain rfl : here = path.place := (Disk.find?_eq_some.mp hfound).1
      have hread := Disk.read_eq_ok_iff_find?.mpr hfound
      have hread' := h.read_stays (haway _ (List.suffix_refl _)) hread
      rw [load_of_find (Disk.read_eq_ok_iff_find?.mp hread')]
      change loadFile disk path = .ok classes at hload
      change loadFile disk' path = .ok classes
      unfold loadFile at hload ⊢
      rw [hread] at hload
      rw [hread']
      exact hload

end TestSkeleton.Manifest
