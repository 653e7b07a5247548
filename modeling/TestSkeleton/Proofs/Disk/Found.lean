import TestSkeleton.Proofs.Disk.Effects

/-!
# What paths lead to

Whether a path leads to something decides what the calls on it come to: where it does, nothing can
be added, and a directory is not made again. Once the directory of a path is found, the path leads
to whatever is at its place; a path without steps upwards always does.
-/

namespace TestSkeleton.Disk

variable {d d' : Disk} {p : Path} {here r q : Place} {s : Segment} {xs : List Segment} {e : Entry}
  {problem : DiskProblem}

/-! ### Places -/

/-- What is above something is a directory. -/
theorem lookAt_tail (h : (d.lookAt q).isSome = true) : d.lookAt q.tail = some .directory := by
  obtain ⟨e, he⟩ := Option.isSome_iff_exists.mp h
  by_cases hq : q = []
  · subst hq
    exact d.lookAt_nil
  · rcases d.closed _ (mem_of_lookAt hq he) with htail | htail
    · rw [htail]
      exact d.lookAt_nil
    · by_cases hroot : q.tail = []
      · rw [hroot]
        exact d.lookAt_nil
      · exact (lookAt_eq_some_iff hroot).mpr htail

/-- All places above something are directories. -/
theorem lookAt_of_append (h : (d.lookAt (xs ++ q)).isSome = true) (hxs : xs ≠ []) :
    d.lookAt q = some .directory := by
  induction xs with
  | nil => exact absurd rfl hxs
  | cons s xs ih =>
    have htail : d.lookAt (xs ++ q) = some .directory := lookAt_tail h
    by_cases hnil : xs = []
    · subst hnil
      exact htail
    · exact ih (by rw [htail]; rfl) hnil

/-! ### Following segments -/

/-- Segments that have been followed are not too long. -/
theorem isTooLong_of_follow (h : d.follow here xs = .ok r) : ∀ s ∈ xs, s.isTooLong = false := by
  induction xs generalizing here with
  | nil => nofun
  | cons s xs ih =>
    intro t ht
    obtain ⟨-, ⟨hs, hnext⟩ | ⟨-, hlong, -, hnext⟩⟩ := follow_cons_eq_ok.mp h
    · rcases List.mem_cons.mp ht with rfl | ht
      · subst hs
        decide
      · exact ih hnext t ht
    · rcases List.mem_cons.mp ht with rfl | ht
      · exact hlong
      · exact ih hnext t ht

/-- Where segments lead there is something. -/
theorem lookAt_of_follow (h : d.follow here xs = .ok r) (hhere : (d.lookAt here).isSome = true) :
    (d.lookAt r).isSome = true := by
  induction xs generalizing here with
  | nil =>
    cases h
    exact hhere
  | cons s xs ih =>
    obtain ⟨-, ⟨-, hnext⟩ | ⟨-, -, hsome, hnext⟩⟩ := follow_cons_eq_ok.mp h
    · apply ih hnext
      rw [lookAt_tail hhere]
      rfl
    · exact ih hnext hsome

/-- Segments are not followed where something is missing, no directory, or too long a name. -/
theorem eq_of_follow_error (h : d.follow here xs = .error problem) :
    problem = .missing ∨ problem = .notDirectory ∨
      problem = .nameTooLong ∧ ∃ s ∈ xs, s.isTooLong = true := by
  induction xs generalizing here with
  | nil => cases h
  | cons s xs ih =>
    have hrest : ∀ next, d.follow next xs = .error problem →
        problem = .missing ∨ problem = .notDirectory ∨
          problem = .nameTooLong ∧ ∃ t ∈ s :: xs, t.isTooLong = true := by
      intro next hnext
      refine (ih hnext).imp_right fun h => h.imp_right fun ⟨hproblem, t, ht, hlong⟩ => ?_
      exact ⟨hproblem, t, List.mem_cons_of_mem s ht, hlong⟩
    rw [follow] at h
    split at h
    · cases h
      exact .inl rfl
    · cases h
      exact .inr (.inl rfl)
    · split at h
      · exact hrest _ h
      · split at h
        · next hlong =>
          cases h
          exact .inr (.inr ⟨rfl, s, List.mem_cons_self, hlong⟩)
        · split at h
          · cases h
            exact .inl rfl
          · exact hrest _ h

/-- Segments are followed from where the ones before them lead. -/
theorem follow_append_of_ok {ys : List Segment} (h : d.follow here xs = .ok r) :
    d.follow here (xs ++ ys) = d.follow r ys := by
  induction xs generalizing here with
  | nil =>
    cases h
    rfl
  | cons s xs ih =>
    rw [List.cons_append, follow]
    obtain ⟨hdir, ⟨hs, hnext⟩ | ⟨hs, hlong, hsome, hnext⟩⟩ := follow_cons_eq_ok.mp h
    · simp only [hdir, if_pos hs]
      exact ih hnext
    · obtain ⟨e, he⟩ := Option.isSome_iff_exists.mp hsome
      simp only [hdir, if_neg hs, hlong, he, Bool.false_eq_true, if_false]
      exact ih hnext

/-- Without steps upwards segments lead to the place that they spell, where something is there. -/
theorem follow_of_lookAt (hup : .up ∉ xs) (hshort : ∀ s ∈ xs, s.isTooLong = false)
    (h : (d.lookAt (xs.reverse ++ here)).isSome = true) :
    d.follow here xs = .ok (xs.reverse ++ here) := by
  induction xs generalizing here with
  | nil => rfl
  | cons s xs ih =>
    rw [List.mem_cons, not_or] at hup
    rw [List.reverse_cons, List.append_assoc, List.singleton_append] at h ⊢
    have hnext := ih hup.2 (fun t ht => hshort t (List.mem_cons_of_mem s ht)) h
    have hsome : (d.lookAt (s :: here)).isSome = true := by
      by_cases hxs : xs.reverse = []
      · rwa [hxs, List.nil_append] at h
      · rw [lookAt_of_append h hxs]
        rfl
    exact follow_cons_eq_ok.mpr ⟨lookAt_tail hsome,
      .inr ⟨fun hs => hup.1 hs.symm, hshort s List.mem_cons_self, hsome, hnext⟩⟩

/-! ### Finding -/

/-- A path without segments leads to the root. -/
theorem find?_of_nil (h : p.segments = []) : d.find? p = .ok (some (p.place, .directory)) := by
  obtain ⟨anchor, segments⟩ := p
  subst h
  refine find?_eq_some.mpr ⟨rfl, ?_, locate_eq_ok.mpr ⟨rfl, ?_, rfl⟩, d.lookAt_nil⟩
  · cases anchor <;> decide
  · cases anchor <;> decide

/-- A path leads to something exactly where it can be followed. -/
theorem find?_isSome_iff :
    (∃ e, d.find? p = .ok (some (p.place, e))) ↔
      p.hasNull = false ∧ d.locate p = .ok p.place := by
  constructor
  · rintro ⟨e, h⟩
    obtain ⟨-, hnull, hloc, -⟩ := find?_eq_some.mp h
    exact ⟨hnull, hloc⟩
  · rintro ⟨hnull, hloc⟩
    have hsome := lookAt_of_follow (locate_eq_ok.mp hloc).2.2 (by simp)
    obtain ⟨e, he⟩ := Option.isSome_iff_exists.mp hsome
    exact ⟨e, find?_eq_some.mpr ⟨rfl, hnull, hloc, he⟩⟩

/-- A path leads nowhere where it has a null character or cannot be followed. -/
theorem find?_eq_none :
    d.find? p = .ok none ↔
      p.hasNull = true ∨ ∃ problem, d.locate p = .error problem ∧ problem ≠ .nameTooLong := by
  cases hnull : p.hasNull with
  | true => simp [find?, hnull]
  | false =>
    cases hloc : d.locate p with
    | error problem => cases problem <;> simp [find?, hnull, hloc]
    | ok here =>
      obtain rfl : here = p.place := (locate_eq_ok.mp hloc).1
      obtain ⟨e, he⟩ := find?_isSome_iff.mpr ⟨hnull, hloc⟩
      simp [he]

/-- What a path leads to is found as long as the directories on its way and itself are there. -/
theorem find?_of_directories (h : d.find? p = .ok (some (p.place, e)))
    (hdirs : ∀ q, d.lookAt q = some .directory → d'.lookAt q = some .directory) {e' : Entry}
    (he' : d'.lookAt p.place = some e') : d'.find? p = .ok (some (p.place, e')) := by
  obtain ⟨-, hnull, hloc, -⟩ := find?_eq_some.mp h
  obtain ⟨-, hlong, hfollow⟩ := locate_eq_ok.mp hloc
  refine find?_eq_some.mpr ⟨rfl, hnull, locate_eq_ok.mpr ⟨rfl, hlong, ?_⟩, he'⟩
  exact follow_of_directories hdirs hfollow (by rw [he']; rfl)

/-- Where the directory of a path is found, the path leads to what is at its place. -/
theorem find?_of_parent (hparent : d.find? p.parent = .ok (some (p.parent.place, .directory)))
    (hnull : p.hasNull = false) (hlong : p.isTooLong = false)
    (hlast : ∀ s, p.segments.getLast? = some s → s.isTooLong = false) :
    d.find? p = .ok ((d.lookAt p.place).map fun e => (p.place, e)) := by
  rcases List.eq_nil_or_concat' p.segments with hnil | ⟨init, s, hsegments⟩
  · have hroot : p.place = [] := by rw [Path.place, hnil]; rfl
    rw [find?_of_nil hnil, hroot, lookAt_nil]
    rfl
  · obtain ⟨-, -, hloc, hdir⟩ := find?_eq_some.mp hparent
    obtain rfl : p.parent.segments = init := by
      rw [Path.parent, hsegments, List.dropLast_concat]
    have hstep : d.follow [] p.segments = d.follow p.parent.place [s] := by
      rw [hsegments]
      exact follow_append_of_ok (locate_eq_ok.mp hloc).2.2
    have hplace : p.place = Place.walk p.parent.place [s] := by
      rw [Path.place, hsegments, Place.walk_append]
      rfl
    have hshort : s.isTooLong = false := hlast s (by rw [hsegments, List.getLast?_concat])
    rw [find?, hnull, locate, hlong, hstep, hplace]
    simp only [Bool.false_eq_true, if_false, follow, Place.walk, hdir, hshort]
    by_cases hs : s = .up
    · simp only [if_pos hs]
    · simp only [if_neg hs]
      cases hlook : d.lookAt (s :: p.parent.place) with
      | none => rfl
      | some e => simp [hlook]

/-- A path without steps upwards leads to what is at its place. -/
theorem find?_of_not_mem_up (hup : .up ∉ p.segments) (hnull : p.hasNull = false)
    (hlong : p.isTooLong = false) (hshort : ∀ s ∈ p.segments, s.isTooLong = false) :
    d.find? p = .ok ((d.lookAt p.place).map fun e => (p.place, e)) := by
  have hplace : p.place = p.segments.reverse ++ [] := Place.walk_of_not_mem_up hup
  cases hlook : d.lookAt p.place with
  | some e =>
    have hfollow := follow_of_lookAt hup hshort (by rw [← hplace, hlook]; rfl)
    rw [← hplace] at hfollow
    exact find?_eq_some.mpr ⟨rfl, hnull, locate_eq_ok.mpr ⟨rfl, hlong, hfollow⟩, hlook⟩
  | none =>
    cases hfollow : d.follow [] p.segments with
    | ok r =>
      have hsome := lookAt_of_follow hfollow (by simp)
      rw [eq_walk_of_follow hfollow, ← Path.place, hlook] at hsome
      cases hsome
    | error problem =>
      refine find?_eq_none.mpr (.inr ⟨problem, ?_, ?_⟩)
      · rw [locate, hlong, hfollow]
        rfl
      · rintro rfl
        obtain h | h | ⟨-, s, hs, htoo⟩ := eq_of_follow_error hfollow
        · cases h
        · cases h
        · rw [hshort s hs] at htoo
          cases htoo

/-- Whether there is a file at a path without steps upwards is the same on a disk that has changed
elsewhere. Directories on the way may be new, so no name of the path may be too long for them. -/
theorem isFile_stays {files dirs : Place → Prop} (h : Frame d d' files dirs)
    (hup : .up ∉ p.segments) (hshort : ∀ s ∈ p.segments, s.isTooLong = false)
    (hne : ¬ files p.place) : d'.isFile p = d.isFile p := by
  rw [isFile, isFile]
  cases hnull : p.hasNull with
  | true => simp [find?, hnull]
  | false =>
    cases hlong : p.isTooLong with
    | true => simp [find?, locate, hnull, hlong]
    | false =>
      rw [find?_of_not_mem_up hup hnull hlong hshort, find?_of_not_mem_up hup hnull hlong hshort]
      have hfile : (d'.lookAt p.place).any Entry.isFile = (d.lookAt p.place).any Entry.isFile := by
        rw [Bool.eq_iff_iff, Option.any_eq_true, Option.any_eq_true]
        constructor
        · rintro ⟨_ | content, he, hf⟩
          · cases hf
          · exact ⟨_, h.new_file _ _ hne he, rfl⟩
        · rintro ⟨_ | content, he, hf⟩
          · cases hf
          · exact ⟨_, h.file_stays _ _ hne he, rfl⟩
      simpa [Except.map, Option.any_map, Function.comp_def] using hfile

/-! ### Adding and making directories -/

/-- A place is taken exactly where a path can be followed. -/
theorem freePlace_eq_alreadyExists :
    d.freePlace p = .error .alreadyExists ↔ d.locate p = .ok p.place := by
  rw [freePlace, locate]
  cases p.isTooLong with
  | true => simp
  | false =>
    simp only [Bool.false_eq_true, if_false]
    rcases List.eq_nil_or_concat' p.segments with hnil | ⟨init, s, hsegments⟩
    · simp [hnil, follow, Path.place]
    · rw [Path.place, hsegments, List.getLast?_concat, List.dropLast_concat, Place.walk_append]
      cases hfollow : d.follow [] init with
      | error problem =>
        have hno : ∀ r, d.follow [] (init ++ [s]) ≠ .ok r := by
          intro r hr
          obtain ⟨mid, hmid, -⟩ := follow_append_eq_ok.mp hr
          rw [hfollow] at hmid
          cases hmid
        have hproblem : problem ≠ .alreadyExists := by
          rintro rfl
          simpa using eq_of_follow_error hfollow
        simp [hno, hproblem]
      | ok here =>
        rw [follow_append_of_ok hfollow, ← eq_walk_of_follow hfollow]
        rcases hlook : d.lookAt here with _ | _ | content
        · simp [follow, hlook]
        · by_cases hs : s = .up
          · simp [follow, hlook, hs, Place.walk]
          · cases hlong : s.isTooLong with
            | true => simp [follow, hlook, hs, hlong]
            | false =>
              cases hlast : d.lookAt (s :: here) with
              | none => simp [follow, hlook, hs, hlong, hlast]
              | some old => simp [follow, hlook, hs, hlong, hlast, Place.walk]
        · simp [follow, hlook]

/-- Nothing can be added exactly where a path leads to something. -/
theorem add_eq_alreadyExists :
    d.add p e = .error (.disk .alreadyExists p) ↔
      ∃ old, d.find? p = .ok (some (p.place, old)) := by
  rw [find?_isSome_iff, ← freePlace_eq_alreadyExists, add]
  cases p.hasNull with
  | true => simp
  | false =>
    cases hfree : d.freePlace p with
    | error problem => simp
    | ok place =>
      obtain ⟨here, s⟩ := place
      obtain ⟨-, init, -, -, hdir, hup, -, hnone⟩ := freePlace_eq_ok.mp hfree
      simp only [Bool.false_eq_true, if_false]
      split
      · simp [hup]
      · next hne => exact (hne hdir hnone).elim

/-- A directory that is there already is accepted where its path leads to it. -/
theorem find?_of_acceptExisting {failure : Failure}
    (h : d.acceptExisting p failure = .ok ()) :
    d.find? p = .ok (some (p.place, .directory)) := by
  rw [acceptExisting.eq_def] at h
  split at h
  · cases h
  · rw [isDirectory] at h
    cases hfound : d.find? p with
    | error f => rw [hfound] at h; cases h
    | ok found =>
      rw [hfound] at h
      rcases found with _ | ⟨here, _ | content⟩
      · cases h
      · rw [(find?_eq_some.mp hfound).1]
      · cases h
  · cases h

/-- A directory is found where it has been added. -/
theorem find?_of_add (h : d.add p e = .ok d') : d'.find? p = .ok (some (p.place, e)) := by
  obtain ⟨hloc, -, hnew, -⟩ := locate_add h
  exact find?_eq_some.mpr ⟨rfl, (add_eq_ok.mp h).1, hloc, hnew⟩

/-- A directory is found where it has been made. -/
theorem find?_of_makeDirs (h : d.makeDirs p = (.ok (), d')) :
    d'.find? p = .ok (some (p.place, .directory)) := by
  rw [makeDirs] at h
  split at h
  · next hadd =>
    cases h
    exact find?_of_add hadd
  · split at h
    · cases h
    · split at h
      · cases h
      · next made hmade =>
        rw [makeLast] at h
        split at h
        · next hadd =>
          cases h
          exact find?_of_add hadd
        · obtain ⟨haccept, rfl⟩ := Prod.mk.inj h
          exact find?_of_acceptExisting haccept
  · obtain ⟨haccept, rfl⟩ := Prod.mk.inj h
    exact find?_of_acceptExisting haccept

/-- A directory that is found is not made again. -/
theorem makeDirs_of_found (h : d.find? p = .ok (some (p.place, .directory))) :
    d.makeDirs p = (.ok (), d) := by
  have hadd : d.add p .directory = .error (.disk .alreadyExists p) :=
    add_eq_alreadyExists.mpr ⟨.directory, h⟩
  have haccept : d.acceptExisting p (.disk .alreadyExists p) = .ok () := by
    rw [acceptExisting, isDirectory, h]
    · rfl
    · intro hmissing
      cases hmissing
  rw [makeDirs, hadd]
  simp only [haccept]

end TestSkeleton.Disk
