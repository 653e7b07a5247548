import TestSkeleton.Disk.Files
import TestSkeleton.Proofs.Disk.Found
import TestSkeleton.Proofs.Disk.TargetsOnly

/-!
# Replacing files

A file is replaced by removing it and creating it again, and its directory is made in between. The
path is looked up before the directory is made and afterwards, and a step upwards out of a missing
directory makes the difference: the old file is not found, so it stays, and then it is in the way.
The main statement says exactly when that happens; without steps upwards it never does.

Specification: `SPEC_FULL.md:54`.
-/

namespace TestSkeleton.Disk

variable {d d₁ d₂ : Disk} {p : Path} {q : Place} {e : Entry}

/-- What a path passes once it is followed is there. -/
theorem isSome_lookAt_of_passes (h : d.locate p = .ok p.place) (hpasses : Passes p.segments q) :
    (d.lookAt q).isSome = true := by
  obtain ⟨init, ⟨rest, hsegments⟩, rfl⟩ := hpasses
  have hfollow := (locate_eq_ok.mp h).2.2
  rw [← hsegments] at hfollow
  obtain ⟨mid, hinit, -⟩ := follow_append_eq_ok.mp hfollow
  rw [← eq_walk_of_follow hinit]
  exact lookAt_of_follow hinit (by simp)

/-- Once directories are made, something is at a place where it was before or where they are on the
way. -/
theorem isSome_lookAt_makeDirs (h : d.makeDirs p = (.ok (), d₁)) :
    (d₁.lookAt q).isSome = true ↔ (d.lookAt q).isSome = true ∨ Passes p.segments q := by
  have hframe := d.frame_makeDirs p
  rw [h] at hframe
  constructor
  · intro hsome
    obtain ⟨e, he⟩ := Option.isSome_iff_exists.mp hsome
    cases e with
    | directory =>
      refine (hframe.new_directory q he).imp_left fun hold => ?_
      rw [hold]
      rfl
    | file content =>
      left
      rw [hframe.new_file q content not_false he]
      rfl
  · rintro (hsome | hpasses)
    · obtain ⟨e, he⟩ := Option.isSome_iff_exists.mp hsome
      cases e with
      | directory => rw [hframe.directory_stays q he]; rfl
      | file content => rw [hframe.file_stays q content not_false he]; rfl
    · exact isSome_lookAt_of_passes (find?_eq_some.mp (find?_of_makeDirs h)).2.2.1 hpasses

/-- Where a path leads to something, its directory is there. -/
theorem follow_parent_of_locate (h : d.locate p = .ok p.place) (hp : p.segments ≠ []) :
    d.follow [] p.parent.segments = .ok p.parent.place ∧
      d.lookAt p.parent.place = some .directory := by
  obtain ⟨init, s, hsegments⟩ := (List.eq_nil_or_concat' p.segments).resolve_left hp
  obtain rfl : p.parent.segments = init := by
    rw [Path.parent, hsegments, List.dropLast_concat]
  have hfollow := (locate_eq_ok.mp h).2.2
  rw [hsegments] at hfollow
  obtain ⟨mid, hinit, hlast⟩ := follow_append_eq_ok.mp hfollow
  obtain rfl : mid = p.parent.place := eq_walk_of_follow hinit
  exact ⟨hinit, (follow_cons_eq_ok.mp hlast).1⟩

/-- Where a file has been removed its directory is still there, so it is not made again. -/
theorem makeDirs_of_removed {content : ByteArray}
    (hfound : d.find? p = .ok (some (p.place, .file content)))
    (hmake : (d.eraseFile p.place).makeDirs p.parent = (.ok (), d₂)) :
    d₂ = d.eraseFile p.place := by
  have hp : p.segments ≠ [] := by
    intro hnil
    rw [find?_of_nil hnil] at hfound
    cases hfound
  obtain ⟨-, -, hloc, -⟩ := find?_eq_some.mp hfound
  obtain ⟨hfollow, hdir⟩ := follow_parent_of_locate hloc hp
  have hdir' : (d.eraseFile p.place).lookAt p.parent.place = some .directory :=
    lookAt_eraseFile_of_directory hdir
  have hparent : (d.eraseFile p.place).find? p.parent =
      .ok (some (p.parent.place, .directory)) := by
    obtain ⟨-, hnull, hmade, -⟩ := find?_eq_some.mp (find?_of_makeDirs hmake)
    refine find?_eq_some.mpr ⟨rfl, hnull, locate_eq_ok.mpr ⟨rfl, ?_, ?_⟩, hdir'⟩
    · exact (locate_eq_ok.mp hmade).2.1
    · exact follow_of_directories (fun _ => lookAt_eraseFile_of_directory) hfollow
        (by rw [hdir']; rfl)
  rw [makeDirs_of_found hparent] at hmake
  exact (Prod.mk.inj hmake).2.symm

/-- A path without steps upwards does not pass its own place before its end. -/
theorem not_passes_parent (hup : .up ∉ p.segments) (hp : p.segments ≠ []) :
    ¬ Passes p.parent.segments p.place := by
  rintro ⟨init, hinit, hplace⟩
  have hinit' : init <+: p.segments := hinit.trans (List.dropLast_prefix _)
  have hup' : .up ∉ init := fun hmem => hup (hinit'.subset hmem)
  rw [Path.place, Place.walk_of_not_mem_up hup, Place.walk_of_not_mem_up hup', List.append_nil,
    List.append_nil] at hplace
  have hlength := hinit.length_le
  rw [← List.reverse_injective hplace, Path.parent, List.length_dropLast] at hlength
  have := List.length_pos_iff.mpr hp
  omega

/-- A path that leads nowhere, but not for a null character in it, is not too long. -/
theorem isTooLong_of_find?_eq_none (h : d.find? p = .ok none) (hnull : p.hasNull = false) :
    p.isTooLong = false := by
  by_contra hlong
  rcases find?_eq_none.mp h with hnull' | ⟨problem, hloc, hne⟩
  · rw [hnull] at hnull'
    cases hnull'
  · rw [locate, if_pos (by simpa using hlong)] at hloc
    cases hloc
    exact hne rfl

/-- Without steps upwards a path leads to what is at its place before its directory is made. -/
theorem lookAt_of_find?_eq_none (hup : .up ∉ p.segments) (h : d.find? p = .ok none)
    (hnull : p.hasNull = false) (hshort : ∀ s ∈ p.segments, s.isTooLong = false) :
    d.lookAt p.place = none := by
  rw [find?_of_not_mem_up hup hnull (isTooLong_of_find?_eq_none h hnull) hshort] at h
  simpa using h

/-- Once the directory of a path is found, all its names are short, as its last one is. -/
theorem isTooLong_of_parent (hparent : d.find? p.parent = .ok (some (p.parent.place, e)))
    (hlast : ∀ s, p.segments.getLast? = some s → s.isTooLong = false) :
    ∀ s ∈ p.segments, s.isTooLong = false := by
  obtain ⟨-, -, hloc, -⟩ := find?_eq_some.mp hparent
  have hinit := isTooLong_of_follow (locate_eq_ok.mp hloc).2.2
  intro s hs
  rcases List.eq_nil_or_concat' p.segments with hnil | ⟨init, last, hsegments⟩
  · rw [hnil] at hs
    cases hs
  · rw [Path.parent, hsegments, List.dropLast_concat] at hinit
    rw [hsegments, List.mem_append, List.mem_singleton] at hs
    rcases hs with hs | rfl
    · exact hinit s hs
    · exact hlast s (by rw [hsegments, List.getLast?_concat])

/-- After a file has been removed and its directory made, its path leads to something exactly where
it has led nowhere at first, while something is at its place: an entry that was there already, or a
directory that has been made on the way. -/
theorem find?_of_removed (hremove : d.remove p = .ok d₁)
    (hmake : d₁.makeDirs p.parent = (.ok (), d₂)) :
    (∃ old, d₂.find? p = .ok (some (p.place, old))) ↔
      p.hasNull = false ∧ (∀ s, p.segments.getLast? = some s → s.isTooLong = false) ∧
        d.find? p = .ok none ∧
        ((d.lookAt p.place).isSome = true ∨ Passes p.parent.segments p.place) := by
  constructor
  · rintro ⟨old, hold⟩
    obtain ⟨-, hnull, hloc, hlook⟩ := find?_eq_some.mp hold
    refine ⟨hnull, fun s hs => ?_, ?_⟩
    · exact isTooLong_of_follow (locate_eq_ok.mp hloc).2.2 s (List.mem_of_getLast? hs)
    · rcases remove_eq_ok.mp hremove with ⟨hnone, rfl⟩ | ⟨content, hfile, rfl⟩
      · refine ⟨hnone, (isSome_lookAt_makeDirs hmake).mp ?_⟩
        rw [hlook]
        rfl
      · -- the file that was found is gone, and nothing has come to its place
        obtain rfl := makeDirs_of_removed hfile hmake
        rw [lookAt_eraseFile_self (find?_eq_some.mp hfile).2.2.2] at hlook
        cases hlook
  · rintro ⟨hnull, hlast, hnone, hplace⟩
    rcases remove_eq_ok.mp hremove with ⟨-, rfl⟩ | ⟨content, hfile, -⟩
    · obtain ⟨old, hold⟩ :=
        Option.isSome_iff_exists.mp ((isSome_lookAt_makeDirs hmake).mpr hplace)
      have hlong := isTooLong_of_find?_eq_none hnone hnull
      refine ⟨old, ?_⟩
      rw [find?_of_parent (find?_of_makeDirs hmake) hnull hlong hlast, hold]
      rfl
    · rw [hnone] at hfile
      cases hfile

/-- After a file has been removed and its directory made, creating it fails as existing exactly
where the path has led nowhere at first, so that nothing was removed, while something is at its
place: an entry that was there already, or a directory that has been made on the way. Without steps
upwards this does not happen. -/
theorem create_removed_eq_alreadyExists (hremove : d.remove p = .ok d₁)
    (hmake : d₁.makeDirs p.parent = (.ok (), d₂)) :
    (d₂.create p = .error (.disk .alreadyExists p) ↔
      p.hasNull = false ∧ (∀ s, p.segments.getLast? = some s → s.isTooLong = false) ∧
        d.find? p = .ok none ∧
        ((d.lookAt p.place).isSome = true ∨ Passes p.parent.segments p.place)) ∧
    (.up ∉ p.segments → d₂.create p ≠ .error (.disk .alreadyExists p)) := by
  have hcreate : d₂.create p = .error (.disk .alreadyExists p) ↔ _ :=
    add_eq_alreadyExists.trans (find?_of_removed hremove hmake)
  refine ⟨hcreate, fun hup hexists => ?_⟩
  obtain ⟨hnull, hlast, hnone, hplace⟩ := hcreate.mp hexists
  have hp : p.segments ≠ [] := by
    intro hnil
    rw [find?_of_nil hnil] at hnone
    cases hnone
  have hshort := isTooLong_of_parent (find?_of_makeDirs hmake) hlast
  rw [lookAt_of_find?_eq_none hup hnone hnull hshort] at hplace
  exact not_passes_parent hup hp (hplace.resolve_left (by simp))

/-- An old file behind a step upwards out of a directory that is still missing stays, and is in the
way. -/
theorem create_removed_behind_missing :
    let p : Path := .ofString "/p/gen/../out/ATest.java"
    let d := empty.put (.ofString "/p/out/ATest.java") "old\n".toUTF8
    ∃ d₁ d₂, d.remove p = .ok d₁ ∧ d₁.makeDirs p.parent = (.ok (), d₂) ∧
      d₂.create p = .error (.disk .alreadyExists p) ∧ d₂.read p = .ok "old\n".toUTF8 := by
  intro p d
  have hnone : d.find? p = .ok none :=
    find?_eq_none.mpr (.inr ⟨.missing, by decide +kernel, by decide⟩)
  have hremove : d.remove p = .ok d := remove_eq_ok.mpr (.inl ⟨hnone, rfl⟩)
  have hmade : (d.makeDirs p.parent).1 = .ok () := by decide +kernel
  have hmake : d.makeDirs p.parent = (.ok (), (d.makeDirs p.parent).2) := Prod.ext hmade rfl
  have hplace : (d.lookAt p.place).isSome = true := by decide +kernel
  have hlast : ∀ s, p.segments.getLast? = some s → s.isTooLong = false := by
    have hname : p.segments.getLast?.all (fun s => !s.isTooLong) = true := by decide +kernel
    intro s hs
    simpa [hs] using hname
  refine ⟨d, _, hremove, hmake, ?_, by decide +kernel⟩
  exact (create_removed_eq_alreadyExists hremove hmake).1.mpr
    ⟨by decide +kernel, hlast, hnone, .inl hplace⟩

/-- So a file cannot always be replaced, even where the path ends in a name. -/
theorem not_always_replaced :
    ¬ ∀ (d d₁ d₂ : Disk) (p : Path), p.segments.getLast? ≠ some .up → d.remove p = .ok d₁ →
      d₁.makeDirs p.parent = (.ok (), d₂) → d₂.create p ≠ .error (.disk .alreadyExists p) := by
  intro hall
  let p : Path := .ofString "/p/gen/../out/ATest.java"
  let d := empty.put (.ofString "/p/out/ATest.java") "old\n".toUTF8
  have hnone : d.find? p = .ok none :=
    find?_eq_none.mpr (.inr ⟨.missing, by decide +kernel, by decide⟩)
  have hremove : d.remove p = .ok d := remove_eq_ok.mpr (.inl ⟨hnone, rfl⟩)
  have hmade : (d.makeDirs p.parent).1 = .ok () := by decide +kernel
  have hfound : (d.makeDirs p.parent).2.find? p =
      .ok (some (p.place, .file "old\n".toUTF8)) :=
    read_eq_ok_iff_find?.mp (by decide +kernel)
  exact hall d d _ p (by decide +kernel) hremove (Prod.ext hmade rfl)
    (add_eq_alreadyExists.mpr ⟨_, hfound⟩)

end TestSkeleton.Disk
