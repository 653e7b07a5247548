import TestSkeleton.Proofs.Disk.Found
import TestSkeleton.Proofs.Disk.Written

/-!
# Files written again

Files that have been written can be written once more, and then the disk is as before. A target that
leads to a file in a directory that is found is replaced without a failure, and only the content at
its place can change. The step is one file, and by induction the targets of a whole list stay
replaceable while the files before them are written.
-/

namespace TestSkeleton.Disk

variable {d d' d₂ d₂' : Disk} {t : Path} {q : Place} {terminator : String}
  {list : List (String × Path)}

/-- A target that leads to a file, in a directory that is found. -/
structure Replaceable (d : Disk) (t : Path) : Prop where
  file : ∃ content, d.find? t = .ok (some (t.place, .file content))
  directory : d.find? t.parent = .ok (some (t.parent.place, .directory))

namespace Replaceable

/-- A target stays replaceable where all directories stay and a file is at its place. -/
theorem of_directories (h : d.Replaceable t)
    (hdirs : ∀ q, d.lookAt q = some .directory → d'.lookAt q = some .directory)
    {content : ByteArray} (hfile : d'.lookAt t.place = some (.file content)) :
    d'.Replaceable t where
  file := by
    obtain ⟨old, hold⟩ := h.file
    exact ⟨content, find?_of_directories hold hdirs hfile⟩
  directory :=
    find?_of_directories h.directory hdirs (hdirs _ (find?_eq_some.mp h.directory).2.2.2)

/-- The last segment of a target that leads to a file is a name. -/
theorem exists_name (h : d.Replaceable t) :
    ∃ s, t.segments = t.parent.segments ++ [s] ∧ t.place = s :: t.parent.place ∧ s ≠ .up ∧
      s.isTooLong = false := by
  obtain ⟨content, hfile⟩ := h.file
  obtain ⟨-, -, hloc, hlook⟩ := find?_eq_some.mp hfile
  rcases List.eq_nil_or_concat' t.segments with hnil | ⟨init, s, hsegments⟩
  · rw [find?_of_nil hnil] at hfile
    cases hfile
  · have hinit : t.parent.segments = init := by
      rw [Path.parent, hsegments, List.dropLast_concat]
    have hwalk : t.place = Place.walk t.parent.place [s] := by
      rw [Path.place, hsegments, Place.walk_append, ← hinit]
      rfl
    have hname : s ≠ .up := by
      rintro rfl
      -- a step upwards leads to a directory
      rw [hwalk, Place.walk, if_pos rfl, Place.walk_nil,
        lookAt_tail (by rw [(find?_eq_some.mp h.directory).2.2.2]; rfl)] at hlook
      cases hlook
    refine ⟨s, by rw [hsegments, hinit], ?_, hname, ?_⟩
    · rw [hwalk, Place.walk, if_neg hname]
      rfl
    · exact isTooLong_of_follow (locate_eq_ok.mp hloc).2.2 s (by rw [hsegments]; simp)

/-- Once its file has been removed, a target can be created. -/
theorem create_removed (h : d.Replaceable t) :
    ∃ made, (d.eraseFile t.place).create t = .ok made := by
  obtain ⟨s, hsegments, hplace, hup, hlong⟩ := h.exists_name
  obtain ⟨content, hfile⟩ := h.file
  obtain ⟨-, hnull, hloc, hlook⟩ := find?_eq_some.mp hfile
  obtain ⟨-, -, hlocParent, hdir⟩ := find?_eq_some.mp h.directory
  have hdir' : (d.eraseFile t.place).lookAt t.parent.place = some .directory :=
    lookAt_eraseFile_of_directory hdir
  have hnone : (d.eraseFile t.place).lookAt (s :: t.parent.place) = none := by
    rw [← hplace]
    exact lookAt_eraseFile_self hlook
  have hfollow : (d.eraseFile t.place).follow [] t.parent.segments = .ok t.parent.place :=
    follow_of_directories (fun _ => lookAt_eraseFile_of_directory)
      (locate_eq_ok.mp hlocParent).2.2 (by rw [hdir']; rfl)
  have hfree : (d.eraseFile t.place).freePlace t = .ok (t.parent.place, s) :=
    freePlace_eq_ok.mpr ⟨(locate_eq_ok.mp hloc).2.1, t.parent.segments, hsegments, hfollow,
      hdir', hup, hlong, hnone⟩
  exact ⟨_, add_eq_ok.mpr ⟨hnull, t.parent.place, s, hfree, hdir', hnone, hup, rfl⟩⟩

/-- A replaceable target is written, and nothing changes but the content at its place. -/
theorem callsFor (h : d.Replaceable t) (terminator body : String) :
    ∃ d', adapter.Succeeds d (Batch.callsFor terminator body t) d' ∧
      d'.lookAt t.place = some (.file (contentOf terminator body)) ∧
      ∀ q, q ≠ t.place → d'.lookAt q = d.lookAt q := by
  obtain ⟨content, hfile⟩ := h.file
  obtain ⟨made, hcreate⟩ := h.create_removed
  have hremove : d.remove t = .ok (d.eraseFile t.place) :=
    remove_eq_ok.mpr (.inr ⟨content, hfile, rfl⟩)
  have hmake : (d.eraseFile t.place).makeDirs t.parent = (.ok (), d.eraseFile t.place) :=
    makeDirs_of_found (find?_of_directories h.directory (fun _ => lookAt_eraseFile_of_directory)
      (lookAt_eraseFile_of_directory (find?_eq_some.mp h.directory).2.2.2))
  have hwrite : made.write t (contentOf terminator body) =
      .ok (made.setContent t.place (contentOf terminator body)) :=
    write_eq_ok.mpr (.inl ⟨_, find?_of_add hcreate, rfl⟩)
  refine ⟨_, .cons (step_eq_ok.mpr hremove) (.cons hmake (.cons (step_eq_ok.mpr hcreate)
    (.cons (step_eq_ok.mpr hwrite) (.nil _)))), (locate_write hwrite).2.2.1, ?_⟩
  intro q hq
  rw [lookAt_setContent_of_ne _ hq, (locate_add hcreate).2.2.2 q hq,
    lookAt_eraseFile_of_ne _ hq]

/-- Replaceable targets are all written, and nothing changes but the content at their places. -/
theorem callsOf (h : ∀ f ∈ list, d.Replaceable f.2) (terminator : String) :
    ∃ d', adapter.Succeeds d (Batch.callsOf terminator list) d' ∧
      ∀ q, q ∉ list.map (fun f => f.2.place) → d'.lookAt q = d.lookAt q := by
  induction list generalizing d with
  | nil => exact ⟨d, .nil d, fun _ _ => rfl⟩
  | cons f list ih =>
    obtain ⟨mid, hfile, hnew, hother⟩ := (h f List.mem_cons_self).callsFor terminator f.1
    have hdirs : ∀ q, d.lookAt q = some .directory → mid.lookAt q = some .directory :=
      (frame_of_succeeds hfile fun c hc d => frame_after hc d).directory_stays
    have hmid : ∀ g ∈ list, mid.Replaceable g.2 := by
      intro g hg
      have hold := h g (List.mem_cons_of_mem f hg)
      by_cases hplace : g.2.place = f.2.place
      · exact hold.of_directories hdirs (hplace ▸ hnew)
      · obtain ⟨content, hfound⟩ := hold.file
        have hstays : mid.lookAt g.2.place = some (.file content) := by
          rw [hother _ hplace, (find?_eq_some.mp hfound).2.2.2]
        exact hold.of_directories hdirs hstays
    obtain ⟨d', hrest, hlook⟩ := ih hmid
    refine ⟨d', ?_, fun q hq => ?_⟩
    · rw [Batch.callsOf_cons]
      exact Adapter.succeeds_append_iff.mpr ⟨mid, hfile, hrest⟩
    · rw [List.map_cons, List.mem_cons, not_or] at hq
      rw [hlook q hq.2, hother q hq.1]

end Replaceable

/-- The targets of files that have been written are replaceable. -/
theorem replaceable_of_succeeds (h : adapter.Succeeds d (Batch.callsOf terminator list) d') :
    ∀ f ∈ list, d'.Replaceable f.2 := by
  intro f hf
  constructor
  · obtain ⟨t, -, ⟨_, body, _, -, -, hread⟩, heq⟩ :=
      read_target_of_succeeds h (List.mem_map_of_mem hf)
    exact ⟨_, read_eq_ok_iff_find?.mp (heq.trans hread)⟩
  · -- the directory was made before the file, and no later call takes it away
    obtain ⟨before, after, rfl⟩ := List.append_of_mem hf
    rw [Batch.callsOf_append, Batch.callsOf_cons] at h
    obtain ⟨mid, -, h⟩ := Adapter.succeeds_append_iff.mp h
    obtain ⟨written, hfile, hafter⟩ := Adapter.succeeds_append_iff.mp h
    obtain ⟨removed, -, hfile⟩ := Adapter.succeeds_cons_iff.mp hfile
    obtain ⟨made, hmake, hfile⟩ := Adapter.succeeds_cons_iff.mp hfile
    have hrest : Frame made written (IsTarget [f.2]) (IsOnWay [f.2]) := by
      refine frame_of_succeeds hfile fun c hc d => ?_
      have hmem : c ∈ Batch.callsFor terminator f.1 f.2 :=
        List.mem_cons_of_mem _ (List.mem_cons_of_mem _ hc)
      exact frame_after hmem d
    have hmade : ∀ q, made.lookAt q = some .directory → d'.lookAt q = some .directory :=
      fun q hq => (frame_callsOf hafter).directory_stays q (hrest.directory_stays q hq)
    have hfound := find?_of_makeDirs hmake
    exact find?_of_directories hfound hmade (hmade _ (find?_eq_some.mp hfound).2.2.2)

/-- Disks to which the same files are written agree at the places of the targets. -/
theorem lookAt_target_eq (h : adapter.Succeeds d (Batch.callsOf terminator list) d')
    (h₂ : adapter.Succeeds d₂ (Batch.callsOf terminator list) d₂')
    (hq : q ∈ list.map fun f => f.2.place) : d₂'.lookAt q = d'.lookAt q := by
  induction list generalizing d d₂ with
  | nil => cases hq
  | cons f list ih =>
    rw [Batch.callsOf_cons] at h h₂
    obtain ⟨mid, hfile, hlist⟩ := Adapter.succeeds_append_iff.mp h
    obtain ⟨mid₂, hfile₂, hlist₂⟩ := Adapter.succeeds_append_iff.mp h₂
    by_cases hlater : q ∈ list.map fun f => f.2.place
    · exact ih hlist hlist₂ hlater
    · obtain rfl : q = f.2.place := (List.mem_cons.mp hq).resolve_right hlater
      have hstays : ¬ IsTarget (list.map Prod.snd) f.2.place := by
        rintro ⟨t, ht, hplace⟩
        obtain ⟨g, hg, rfl⟩ := List.mem_map.mp ht
        exact hlater (List.mem_map.mpr ⟨g, hg, hplace.symm⟩)
      have hlook := (frame_callsOf hlist).file_stays _ _ hstays
        (read_eq_ok.mp (read_callsFor hfile)).2.2
      have hlook₂ := (frame_callsOf hlist₂).file_stays _ _ hstays
        (read_eq_ok.mp (read_callsFor hfile₂)).2.2
      rw [hlook, hlook₂]

/-- Files that have been written are written once more without a failure, and everything stays as it
is. -/
theorem succeeds_again (h : adapter.Succeeds d (Batch.callsOf terminator list) d') :
    ∃ d'', adapter.Succeeds d' (Batch.callsOf terminator list) d'' ∧
      ∀ q, d''.lookAt q = d'.lookAt q := by
  obtain ⟨d'', hagain, hother⟩ := Replaceable.callsOf (replaceable_of_succeeds h) terminator
  refine ⟨d'', hagain, fun q => ?_⟩
  by_cases hq : q ∈ list.map fun f => f.2.place
  · exact lookAt_target_eq h hagain hq
  · exact hother q hq

end TestSkeleton.Disk
