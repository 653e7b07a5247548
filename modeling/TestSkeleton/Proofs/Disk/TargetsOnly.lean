import TestSkeleton.Proofs.Disk.Written

/-!
# Batches touch their targets only

Writing to a disk leaves everything alone that is neither a target nor a directory above one. The
targets start at the root and have no steps upwards, so that different targets have different
places. The main statement is about every tree and about every point where the calls may stop.

Specification: `SPEC_FULL.md:54–55` and `SPEC_FULL.md:75`.
-/

namespace TestSkeleton

/-- A path from the root without steps upwards. -/
structure Path.IsPlain (p : Path) : Prop where
  anchor_eq : p.anchor = .root
  no_up : .up ∉ p.segments

instance (p : Path) : Decidable p.IsPlain :=
  decidable_of_iff (p.anchor = .root ∧ .up ∉ p.segments)
    ⟨fun h => ⟨h.1, h.2⟩, fun h => ⟨h.anchor_eq, h.no_up⟩⟩

/-- A place is above another one when it is another beginning of the way there. -/
def Place.IsAbove (q p : Place) : Prop := q ≠ p ∧ q <:+ p

namespace Path.IsPlain

variable {p p' : Path}

/-- The place of a path without steps upwards is its segments, the last one first. -/
theorem place_eq (h : p.IsPlain) : p.place = p.segments.reverse := by
  rw [place, Place.walk_of_not_mem_up h.no_up, List.append_nil]

/-- Plain paths of one place are equal. -/
theorem eq_of_place_eq (h : p.IsPlain) (h' : p'.IsPlain) (heq : p.place = p'.place) : p = p' := by
  have hsegments : p.segments = p'.segments := by
    apply List.reverse_injective
    rw [← h.place_eq, ← h'.place_eq, heq]
  have hanchor : p.anchor = p'.anchor := h.anchor_eq.trans h'.anchor_eq.symm
  cases p
  cases p'
  exact congr (congrArg Path.mk hanchor) hsegments

/-- On the way to a plain path are the places above it. -/
theorem isAbove_of_passes {q : Place} (h : p.IsPlain) (hq : q ≠ [])
    (hpasses : Disk.Passes p.parent.segments q) : Place.IsAbove q p.place := by
  obtain ⟨init, hinit, rfl⟩ := hpasses
  have hsegments : init <+: p.segments := hinit.trans (List.dropLast_prefix _)
  have hup : .up ∉ init := fun hmem => h.no_up (hsegments.subset hmem)
  rw [Place.walk_of_not_mem_up hup, List.append_nil] at hq ⊢
  rw [h.place_eq]
  refine ⟨fun heq => ?_, List.reverse_suffix.mpr hsegments⟩
  -- the way to a path is shorter than the path
  obtain rfl := List.reverse_injective heq
  have hlength := hinit.length_le
  have hpos := List.length_pos_iff.mpr (List.reverse_ne_nil_iff.mp hq)
  rw [parent, List.length_dropLast] at hlength
  omega

end Path.IsPlain

namespace Disk

variable {d d' : Disk} {terminator : String} {targets : List Path}

/-- Nothing but the files at targets and the directories above them comes or goes: all directories
and all other files stay. -/
def TouchesOnly (d d' : Disk) (targets : List Path) : Prop :=
  Frame d d' (IsTarget targets) fun q => ∃ t ∈ targets, Place.IsAbove q t.place

/-- What is on the way to plain targets is above them. -/
theorem Frame.touchesOnly (h : Frame d d' (IsTarget targets) (IsOnWay targets))
    (hplain : ∀ t ∈ targets, t.IsPlain) : d.TouchesOnly d' targets := by
  refine h.mono (fun _ hq => hq) ?_
  rintro q ⟨t, ht, hq, hpasses⟩
  exact ⟨t, ht, (hplain t ht).isAbove_of_passes hq hpasses⟩

/-- Written plain targets hold the last of their bodies. -/
theorem holdsLast_of_isPlain {list : List (String × Path)} {t : Path}
    (h : adapter.Succeeds d (Batch.callsOf terminator list) d')
    (hplain : ∀ t ∈ list.map Prod.snd, t.IsPlain) (ht : t ∈ list.map Prod.snd) :
    d'.HoldsLast terminator list t := by
  have hplace : t.place ∈ list.map fun f => f.2.place := by
    obtain ⟨f, hf, rfl⟩ := List.mem_map.mp ht
    exact List.mem_map.mpr ⟨f, hf, rfl⟩
  obtain ⟨t', heq, hlast⟩ := holdsLast_of_succeeds h hplace
  have ht' : t' ∈ list.map Prod.snd := by
    obtain ⟨before, body, after, rfl, -, -⟩ := hlast
    simp
  rwa [(hplain t' ht').eq_of_place_eq (hplain t ht) heq] at hlast

/-- Writing a batch to a disk touches its targets only, and each target holds its last body then.
Where the batch fails at a file, only the targets up to that file are touched, and all targets
before it that are different from its own hold the last body that came before. -/
theorem write_touches_only_targets (d : Disk) (terminator : String) (b : Batch)
    (hlen : b.bodies.length = b.targets.length) (hplain : ∀ t ∈ b.targets, t.IsPlain) :
    ∃ d',
      ((b.write perform terminator).run d = (.ok b.targets, d') ∧
        d.TouchesOnly d' b.targets ∧
        ∀ t ∈ b.targets, d'.HoldsLast terminator (b.bodies.zip b.targets) t) ∨
      ∃ done body target rest mid e,
        b.bodies.zip b.targets = done ++ (body, target) :: rest ∧
        (b.write perform terminator).run d = (.error e, d') ∧
        adapter.Succeeds d (Batch.callsOf terminator done) mid ∧
        adapter.FailsAt terminator (body, target) mid e d' ∧
        d.TouchesOnly d' (done.map Prod.snd ++ [target]) ∧
        ∀ t ∈ done.map Prod.snd, t ≠ target → d'.HoldsLast terminator done t := by
  have hsnd : (b.bodies.zip b.targets).map Prod.snd = b.targets :=
    List.map_snd_zip (Nat.le_of_eq hlen.symm)
  rcases adapter.succeeds_or_failsAt terminator (b.bodies.zip b.targets) d with
    ⟨d', h⟩ | ⟨done, ⟨body, target⟩, rest, mid, e, d', hfiles, hdone, hfail⟩
  · refine ⟨d', .inl ⟨Batch.write_of_succeeds hlen h, ?_, ?_⟩⟩
    · have hframe := frame_callsOf h
      rw [hsnd] at hframe
      exact hframe.touchesOnly hplain
    · intro t ht
      rw [← hsnd] at hplain ht
      exact holdsLast_of_isPlain h hplain ht
  · have htargets : b.targets = done.map Prod.snd ++ target :: rest.map Prod.snd := by
      rw [← hsnd, hfiles, List.map_append, List.map_cons]
    have hreached : ∀ t ∈ done.map Prod.snd ++ [target], t.IsPlain := by
      intro t ht
      apply hplain
      rw [htargets, List.append_cons]
      exact List.mem_append_left _ ht
    have hbefore : ∀ t ∈ done.map Prod.snd, t.IsPlain := fun t ht =>
      hreached t (List.mem_append_left _ ht)
    refine ⟨d', .inr ⟨done, body, target, rest, mid, e, hfiles, hfail.write hlen hfiles hdone,
      hdone, hfail, ?_, ?_⟩⟩
    · exact (frame_failsAt_after hdone hfail).touchesOnly hreached
    · intro t ht hne
      refine (holdsLast_of_isPlain hdone hbefore ht).of_failsAt hfail fun heq => hne ?_
      exact (hbefore t ht).eq_of_place_eq (hreached target (by simp)) heq

/-- A target below the file of an earlier one cannot be made, and the earlier file stays. -/
theorem write_touches_only_targets_below_file :
    let first : Path := .ofString "/p/a"
    let second : Path := .ofString "/p/a/b"
    let b : Batch := ⟨["x\n\n", "y"], [first, second]⟩
    ∃ d', (b.write perform "\n").run empty = (.error (.disk .alreadyExists first), d') ∧
      empty.TouchesOnly d' [first, second] ∧ d'.read first = .ok "x\n".toUTF8 := by
  intro first second b
  have hresult : ((b.write perform "\n").run empty).1 = .error (.disk .alreadyExists first) := by
    decide +kernel
  obtain ⟨d', ⟨hrun, -⟩ | ⟨done, body, target, rest, mid, e, hfiles, hrun, hdone, hfail, htouches,
    hlast⟩⟩ := write_touches_only_targets empty "\n" b rfl (by decide)
  · rw [hrun] at hresult
    cases hresult
  · obtain rfl : e = .disk .alreadyExists first := by
      rw [hrun] at hresult
      exact Except.error.inj hresult
    rcases done with _ | ⟨f, _ | ⟨f', done⟩⟩
    · -- the first file alone is written
      obtain ⟨hf, -⟩ := List.cons.inj hfiles
      have hfirst : (((⟨["x\n\n"], [first]⟩ : Batch).write perform "\n").run empty).1 =
          .ok [first] := by decide +kernel
      rw [← hf] at hfail
      have halone : ((⟨["x\n\n"], [first]⟩ : Batch).write perform "\n").run empty = _ :=
        hfail.write rfl rfl hdone
      rw [halone] at hfirst
      cases hfirst
    · obtain ⟨rfl, hrest⟩ := List.cons.inj hfiles
      obtain ⟨hf, -⟩ := List.cons.inj hrest
      obtain ⟨-, rfl⟩ := Prod.mk.inj hf
      refine ⟨d', hrun, htouches, ?_⟩
      obtain ⟨before, body', after, hsplit, -, hread⟩ := hlast first (by simp) (by decide)
      have hbody : (body', first) ∈ [("x\n\n", first)] := by simp [hsplit]
      obtain ⟨rfl, -⟩ := Prod.mk.inj (List.mem_singleton.mp hbody)
      exact hread.trans (by decide +kernel)
    · have hlength := congrArg List.length hfiles
      simp [b] at hlength

end Disk
end TestSkeleton
