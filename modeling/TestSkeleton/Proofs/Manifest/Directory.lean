import TestSkeleton.Proofs.Manifest.Listing

/-!
# Manifests in a directory

A directory stands for its manifests, the files at any depth with the suffix of a manifest. They are
read in the order of their paths, segment by segment, whatever the order of the disk is, and other
files do not matter.

Specification: `SPEC_FULL.md:195–196`.
-/

namespace TestSkeleton.Manifest

open Java
open Outcome (FirstWith)

variable {disk disk' : Disk} {dir p q : Path} {format : Format} {m : Format × Path × ByteArray}

/-- The suffixes that announce a format. -/
def Format.suffixes : Format → List String
  | yaml => [".yaml", ".yml"]
  | json => [".json"]

/-- A path comes before another one at the first segment in which they differ. -/
def Precedes (p q : Path) : Prop := p.segments.map Segment.text < q.segments.map Segment.text

instance : DecidableRel Precedes := fun p q =>
  inferInstanceAs (Decidable (p.segments.map Segment.text < q.segments.map Segment.text))

/-- A file at any depth below a directory is a manifest if its suffix announces its format, in any
case of letters. -/
structure IsManifestBelow (disk : Disk) (dir : Path) (m : Format × Path × ByteArray) : Prop where
  file : ∃ names : List Segment, names ≠ [] ∧ m.2.1 = ⟨dir.anchor, dir.segments ++ names⟩ ∧
    disk.lookAt (names.reverse ++ dir.place) = some (.file m.2.2)
  suffix : m.2.1.suffix.toLower ∈ m.1.suffixes

/-- Which manifests are below a directory depends on what is at the places of a disk only. -/
theorem IsManifestBelow.of_lookAt_eq (hlook : ∀ q, disk.lookAt q = disk'.lookAt q)
    (h : IsManifestBelow disk dir m) : IsManifestBelow disk' dir m := by
  obtain ⟨⟨names, hne, hpath, hfile⟩, hsuffix⟩ := h
  exact ⟨⟨names, hne, hpath, (hlook _).symm.trans hfile⟩, hsuffix⟩

/-! ### The manifests that are listed -/

/-- A path has the format that its suffix announces. -/
theorem ofPath?_eq_some : Format.ofPath? p = some format ↔ p.suffix.toLower ∈ format.suffixes := by
  have hyaml : Text.lower p.suffix = ".yaml" ↔ p.suffix.toLower = ".yaml" :=
    Text.lower_eq_iff_toLower (by decide)
  have hyml : Text.lower p.suffix = ".yml" ↔ p.suffix.toLower = ".yml" :=
    Text.lower_eq_iff_toLower (by decide)
  have hjson : Text.lower p.suffix = ".json" ↔ p.suffix.toLower = ".json" :=
    Text.lower_eq_iff_toLower (by decide)
  rw [Format.ofPath?]
  cases format with
  | yaml =>
    simp only [Format.suffixes, List.mem_cons, List.not_mem_nil, or_false, ← hyaml, ← hyml]
    split <;> simp_all
  | json =>
    simp only [Format.suffixes, List.mem_singleton, ← hjson]
    split <;> simp_all

/-- The listed manifests are those below the directory. -/
theorem mem_manifestsBelow (hloc : disk.locate dir = .ok dir.place) :
    m ∈ manifestsBelow disk dir ↔ IsManifestBelow disk dir m := by
  obtain ⟨format, path, content⟩ := m
  rw [manifestsBelow, List.mem_filterMap]
  constructor
  · rintro ⟨⟨path', content'⟩, hmem, hformat⟩
    obtain ⟨found, hfound, heq⟩ := Option.map_eq_some_iff.mp hformat
    cases heq
    exact ⟨(Disk.mem_filesBelow hloc).mp (List.mem_mergeSort.mp hmem), ofPath?_eq_some.mp hfound⟩
  · rintro ⟨hfile, hsuffix⟩
    refine ⟨(path, content), List.mem_mergeSort.mpr ((Disk.mem_filesBelow hloc).mpr hfile), ?_⟩
    dsimp only
    rw [ofPath?_eq_some.mpr hsuffix]
    rfl

/-- The listed manifests are in order, each of them once. -/
theorem pairwise_manifestsBelow (disk : Disk) (dir : Path) :
    (manifestsBelow disk dir).Pairwise fun a b => Precedes a.2.1 b.2.1 := by
  have hsorted := Text.pairwise_lt_mergeSort (disk.nodup_filesBelow dir)
    fun f hf g hg => eq_of_texts_eq hf hg
  refine hsorted.filterMap _ ?_
  rintro ⟨p, content⟩ ⟨p', content'⟩ h m hm m' hm'
  obtain ⟨_, -, rfl⟩ := Option.map_eq_some_iff.mp hm
  obtain ⟨_, -, rfl⟩ := Option.map_eq_some_iff.mp hm'
  exact h

/-- Lists of manifests in order are the same if they have the same manifests. -/
theorem eq_of_pairwise_precedes {l l' : List (Format × Path × ByteArray)}
    (hl : l.Pairwise fun a b => Precedes a.2.1 b.2.1)
    (hl' : l'.Pairwise fun a b => Precedes a.2.1 b.2.1) (h : ∀ m, m ∈ l ↔ m ∈ l') : l = l' := by
  have hne (a b : Format × Path × ByteArray) (hab : Precedes a.2.1 b.2.1) : a ≠ b := by
    rintro rfl
    exact Text.not_lt_of_lt hab hab
  have hperm := (List.perm_ext_iff_of_nodup (hl.imp (hne _ _)) (hl'.imp (hne _ _))).mpr h
  exact hperm.eq_of_pairwise (fun _ _ _ _ hab hba => absurd hba (Text.not_lt_of_lt hab)) hl hl'

/-! ### Loading a directory -/

/-- A directory is loaded as the manifests below it, of which there is one list in order. The
classes are those of the manifests, one after the other, and the failure is that of the first
manifest with one. Neither the order of the disk nor what is in other files matters. -/
theorem load_directory (hdir : disk.isDirectory dir = .ok true) :
    ∃ manifests : List (Format × Path × ByteArray),
      (∀ m, m ∈ manifests ↔ IsManifestBelow disk dir m) ∧
      (manifests.Pairwise fun a b => Precedes a.2.1 b.2.1) ∧
      (∀ classes, load disk dir = .ok classes ↔ ∃ lists, classes = lists.flatten ∧
        List.Forall₂ (fun m list => classesOf m.1 m.2.1 m.2.2 = .ok list) manifests lists) ∧
      (∀ e, load disk dir = .error e ↔ ∃ before m after, manifests = before ++ m :: after ∧
        (∀ m ∈ before, ∃ list, classesOf m.1 m.2.1 m.2.2 = .ok list) ∧
        classesOf m.1 m.2.1 m.2.2 = .error e) ∧
      (∀ disk' : Disk, disk.entries.Perm disk'.entries → load disk' dir = load disk dir) ∧
      ∀ disk' : Disk, disk'.isDirectory dir = .ok true →
        (∀ m, IsManifestBelow disk' dir m ↔ IsManifestBelow disk dir m) →
        load disk' dir = load disk dir := by
  have hload {disk : Disk} (hdir : disk.isDirectory dir = .ok true) : load disk dir =
      ((manifestsBelow disk dir).mapM fun m => classesOf m.1 m.2.1 m.2.2).map List.flatten :=
    load_of_find (Disk.isDirectory_eq_true.mp hdir)
  have hmem {disk : Disk} (hdir : disk.isDirectory dir = .ok true) (m) :
      m ∈ manifestsBelow disk dir ↔ IsManifestBelow disk dir m :=
    mem_manifestsBelow (Disk.locate_of_isDirectory hdir)
  have hsame (disk' : Disk) (hdir' : disk'.isDirectory dir = .ok true)
      (h : ∀ m, IsManifestBelow disk' dir m ↔ IsManifestBelow disk dir m) :
      load disk' dir = load disk dir := by
    rw [hload hdir, hload hdir', eq_of_pairwise_precedes (pairwise_manifestsBelow disk' dir)
      (pairwise_manifestsBelow disk dir) fun m => by rw [hmem hdir', hmem hdir, h]]
  refine ⟨manifestsBelow disk dir, hmem hdir, pairwise_manifestsBelow disk dir, ?_, ?_, ?_, hsame⟩
  · intro classes
    rw [hload hdir, Outcome.map_eq_ok]
    simp only [Outcome.mapM_eq_ok]
    exact exists_congr fun lists => and_comm.trans (and_congr_left' eq_comm)
  · intro e
    rw [hload hdir, Outcome.map_eq_error, Outcome.mapM_eq_error]
  · intro disk' hperm
    have hlook := Disk.lookAt_of_perm hperm
    apply hsame disk'
    · rw [Disk.isDirectory, ← Disk.find?_congr hlook]
      exact hdir
    · exact fun m => ⟨.of_lookAt_eq fun q => (hlook q).symm, .of_lookAt_eq hlook⟩

/-- A directory comes before a file whose name goes on with a dot, although a slash comes after a
dot. -/
theorem load_directory_before_dot :
    let dir : Path := .ofString "/"
    let json : Path := .ofString "/a/b.json"
    let disk := Disk.ofFiles [(.ofString "/a.yml", ⟨#[0xff]⟩), (json, ⟨#[0xff]⟩)]
    disk.isDirectory dir = .ok true ∧ load disk dir = .error (.manifest json .unreadable) := by
  intro dir json disk
  have hdir : disk.isDirectory dir = .ok true := by decide +kernel
  have hread : disk.read json = .ok ⟨#[0xff]⟩ := by decide +kernel
  have hclasses : classesOf .json json ⟨#[0xff]⟩ = .error (.manifest json .unreadable) := by
    have hutf8 : String.fromUTF8? ⟨#[0xff]⟩ = none := by decide +kernel
    simp only [classesOf, parse, Format.read, hutf8]
    rfl
  obtain ⟨manifests, hmem, hsorted, -, herror, -⟩ := load_directory hdir
  have hmanifest : IsManifestBelow disk dir (.json, json, ⟨#[0xff]⟩) := by
    refine ⟨⟨[⟨"a", rfl⟩, ⟨"b.json", rfl⟩], by simp, by decide +kernel, ?_⟩, by decide +kernel⟩
    exact (Disk.read_eq_ok.mp hread).2.2
  obtain ⟨before, after, rfl⟩ := List.append_of_mem ((hmem _).mpr hmanifest)
  refine ⟨hdir, (herror _).mpr ⟨before, _, after, rfl, fun m hm => ?_, hclasses⟩⟩
  -- no manifest comes before it
  have hprecedes := (List.pairwise_append.mp hsorted).2.2 m hm _ List.mem_cons_self
  obtain ⟨⟨names, hne, hpath, hfile⟩, hsuffix⟩ := (hmem m).mp (List.mem_append_left _ hm)
  have hentry := List.mem_map_of_mem (f := Prod.fst) (Disk.mem_of_lookAt (by simp [hne]) hfile)
  have hplaces : disk.entries.map Prod.fst =
      [[⟨"a.yml", rfl⟩], [⟨"a", rfl⟩], [⟨"b.json", rfl⟩, ⟨"a", rfl⟩]] := by decide +kernel
  have hroot : dir.place = [] := by decide +kernel
  rw [hplaces, hroot, List.append_nil] at hentry
  simp only [List.mem_cons, List.not_mem_nil, or_false, List.reverse_eq_iff] at hentry
  rcases hentry with rfl | rfl | rfl
  · rw [hpath] at hprecedes
    exact absurd hprecedes (by decide +kernel)
  · rw [hpath] at hsuffix
    generalize m.1 = format at hsuffix
    cases format <;> exact absurd hsuffix (by decide +kernel)
  · rw [hpath] at hprecedes
    exact absurd hprecedes (by decide +kernel)

end TestSkeleton.Manifest
