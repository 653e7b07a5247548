import TestSkeleton.Disk.Adapter
import TestSkeleton.Proofs.Disk.Follow

/-!
# Effects of calls on a disk

What each call of the adapter does to the tree when it succeeds, and the frame that holds in any
case: directories stay, files stay outside the places that the call is about, and nothing new comes
anywhere else.
-/

namespace TestSkeleton.Disk

variable {d d' d'' : Disk} {p : Path} {here q : Place} {s : Segment} {e : Entry}
  {content : ByteArray}

/-! ### What a call needs and gives -/

/-- A place is free at the end of a path through directories, under a name that is none of the steps
upwards. -/
theorem freePlace_eq_ok :
    d.freePlace p = .ok (here, s) ↔
      p.isTooLong = false ∧ ∃ init, p.segments = init ++ [s] ∧ d.follow [] init = .ok here ∧
        d.lookAt here = some .directory ∧ s ≠ .up ∧ s.isTooLong = false ∧
        d.lookAt (s :: here) = none := by
  rw [freePlace]
  cases p.isTooLong with
  | true => simp
  | false =>
    rcases List.eq_nil_or_concat' p.segments with hnil | ⟨init, last, hsegments⟩
    · simp [hnil]
    · rw [hsegments, List.getLast?_concat, List.dropLast_concat]
      simp only [Bool.false_eq_true, if_false, true_and]
      constructor
      · intro h
        cases hfollow : d.follow [] init with
        | error problem => rw [hfollow] at h; cases h
        | ok mid =>
          rw [hfollow] at h
          dsimp only at h
          split at h
          · cases h
          · cases h
          · next hdir =>
            split at h
            · cases h
            · next hup =>
              split at h
              · cases h
              · next hlong =>
                split at h
                · cases h
                · next hnone =>
                  cases h
                  exact ⟨init, rfl, hfollow, hdir, hup, by simpa using hlong, by simpa using hnone⟩
      · rintro ⟨init', heq, hfollow, hdir, hup, hlong, hnone⟩
        obtain ⟨rfl, hs⟩ := List.append_inj' heq rfl
        obtain rfl := List.singleton_inj.mp hs
        rw [hfollow]
        simp [hdir, hup, hlong, hnone]

/-- An entry is added at a place that is free. -/
theorem add_eq_ok :
    d.add p e = .ok d' ↔
      p.hasNull = false ∧ ∃ here s, d.freePlace p = .ok (here, s) ∧
        ∃ hp hs hup, d' = d.insert s here e hp hs hup := by
  rw [add]
  cases p.hasNull with
  | true => simp
  | false =>
    cases hfree : d.freePlace p with
    | error problem => simp
    | ok place =>
      obtain ⟨here, s⟩ := place
      obtain ⟨-, init, -, -, hdir, hup, -, hnone⟩ := freePlace_eq_ok.mp hfree
      simp only [Bool.false_eq_true, if_false, Except.ok.injEq, Prod.mk.injEq, true_and]
      constructor
      · intro h
        split at h
        · next hp hs =>
          rw [dif_neg hup] at h
          cases h
          exact ⟨here, s, ⟨rfl, rfl⟩, hp, hs, hup, rfl⟩
        · next hne => exact (hne hdir hnone).elim
      · rintro ⟨here', s', ⟨rfl, rfl⟩, hp, hs, -, rfl⟩
        split
        · exact dif_neg hup
        · next hne => exact (hne hp hs).elim

/-- Nothing is removed where a path leads to nothing, and else the file there. -/
theorem remove_eq_ok :
    d.remove p = .ok d' ↔
      (d.find? p = .ok none ∧ d' = d) ∨
        ∃ content, d.find? p = .ok (some (p.place, .file content)) ∧ d' = d.eraseFile p.place := by
  rw [remove]
  cases hfound : d.find? p with
  | error f => simp [bind, Except.bind]
  | ok found =>
    rcases found with _ | ⟨here, e⟩
    · simp [bind, Except.bind, pure, Except.pure, eq_comm]
    · obtain rfl : here = p.place := (find?_eq_some.mp hfound).1
      cases e with
      | directory => simp [bind, Except.bind]
      | file content => simp [bind, Except.bind, pure, Except.pure, eq_comm]

/-- A file that is there gets new content, and else it is added. -/
theorem write_eq_ok :
    d.write p content = .ok d' ↔
      (∃ old, d.find? p = .ok (some (p.place, .file old)) ∧ d' = d.setContent p.place content) ∨
        d.find? p = .ok none ∧ d.add p (.file content) = .ok d' := by
  rw [write]
  cases hfound : d.find? p with
  | error f => simp [bind, Except.bind]
  | ok found =>
    rcases found with _ | ⟨here, e⟩
    · simp [bind, Except.bind]
    · obtain rfl : here = p.place := (find?_eq_some.mp hfound).1
      cases e with
      | directory => simp [bind, Except.bind]
      | file old => simp [bind, Except.bind, pure, Except.pure, eq_comm]

/-- A step leads to the next disk where its operation gives it. -/
theorem step_eq_ok {x : Except Failure Disk} : d.step x = (.ok (), d') ↔ x = .ok d' := by
  cases x <;> simp [step]

/-- A new entry is where its path leads. -/
theorem locate_add (h : d.add p e = .ok d') :
    d'.locate p = .ok p.place ∧ d.lookAt p.place = none ∧ d'.lookAt p.place = some e ∧
      ∀ q, q ≠ p.place → d'.lookAt q = d.lookAt q := by
  obtain ⟨-, here, s, hfree, hp, hs, -, rfl⟩ := add_eq_ok.mp h
  obtain ⟨hlong, init, hsegments, hfollow, -, hup, hslong, hnone⟩ := freePlace_eq_ok.mp hfree
  have hplace : p.place = s :: here := by
    rw [Path.place, hsegments, Place.walk_append, ← eq_walk_of_follow hfollow, Place.walk, if_neg hup]
    rfl
  have hnew : (d.insert s here e hp hs hup).lookAt (s :: here) = some e := by
    rw [lookAt_insert, if_pos rfl]
  refine ⟨locate_eq_ok.mpr ⟨rfl, hlong, ?_⟩, hplace ▸ hnone, hplace ▸ hnew, ?_⟩
  · have hdirs : ∀ q, d.lookAt q = some .directory →
        (d.insert s here e hp hs hup).lookAt q = some .directory := by
      intro q hq
      rw [lookAt_insert, if_neg (by rintro rfl; rw [hnone] at hq; cases hq), hq]
    have hdir := hdirs here hp
    rw [hplace, hsegments, follow_append_eq_ok]
    refine ⟨here, follow_of_directories hdirs hfollow (by rw [hdir]; rfl), ?_⟩
    exact follow_cons_eq_ok.mpr ⟨hdir, .inr ⟨hup, hslong, by rw [hnew]; rfl, rfl⟩⟩
  · intro q hq
    rw [lookAt_insert, if_neg (hplace ▸ hq)]

/-- A written file is where its path leads, with its content. -/
theorem locate_write (h : d.write p content = .ok d') :
    d'.locate p = .ok p.place ∧ d.lookAt p.place ≠ some .directory ∧
      d'.lookAt p.place = some (.file content) ∧
      ∀ q, q ≠ p.place → d'.lookAt q = d.lookAt q := by
  rcases write_eq_ok.mp h with ⟨old, hfound, rfl⟩ | ⟨-, hadd⟩
  · obtain ⟨-, -, hloc, hold⟩ := find?_eq_some.mp hfound
    obtain ⟨-, hlong, hfollow⟩ := locate_eq_ok.mp hloc
    have hnew : (d.setContent p.place content).lookAt p.place = some (.file content) :=
      lookAt_setContent_eq_some.mpr ⟨_, hold, by simp [Entry.isFile]⟩
    have hdirs : ∀ q, d.lookAt q = some .directory →
        (d.setContent p.place content).lookAt q = some .directory := fun q hq =>
      lookAt_setContent_eq_some.mpr ⟨_, hq, by simp [Entry.isFile]⟩
    refine ⟨locate_eq_ok.mpr ⟨rfl, hlong, follow_of_directories hdirs hfollow ?_⟩, ?_, hnew,
      fun q hq => lookAt_setContent_of_ne d hq content⟩
    · rw [hnew]
      rfl
    · rw [hold]
      simp
  · obtain ⟨hloc, hnone, hnew, hother⟩ := locate_add hadd
    refine ⟨hloc, ?_, hnew, hother⟩
    rw [hnone]
    simp

/-- A path that can be written has no null character. -/
theorem hasNull_of_write (h : d.write p content = .ok d') : p.hasNull = false := by
  rcases write_eq_ok.mp h with ⟨old, hfound, -⟩ | ⟨-, hadd⟩
  · exact (find?_eq_some.mp hfound).2.1
  · exact (add_eq_ok.mp hadd).1

/-- What has been written is read again. -/
theorem read_of_write (h : d.write p content = .ok d') : d'.read p = .ok content := by
  obtain ⟨hloc, -, hnew, -⟩ := locate_write h
  exact read_eq_ok.mpr ⟨hasNull_of_write h, hloc, hnew⟩

/-! ### Frames -/

/-- What a change of a disk leaves alone: all directories, and the files away from some places. New
files come only to these places, and new directories only to some other ones. -/
structure Frame (d d' : Disk) (files dirs : Place → Prop) : Prop where
  directory_stays : ∀ q, d.lookAt q = some .directory → d'.lookAt q = some .directory
  file_stays : ∀ q content, ¬ files q → d.lookAt q = some (.file content) →
    d'.lookAt q = some (.file content)
  new_directory : ∀ q, d'.lookAt q = some .directory → d.lookAt q = some .directory ∨ dirs q
  new_file : ∀ q content, ¬ files q → d'.lookAt q = some (.file content) →
    d.lookAt q = some (.file content)

namespace Frame

variable {files files' dirs dirs' : Place → Prop}

/-- A disk is in any frame of itself. -/
theorem refl (d : Disk) (files dirs : Place → Prop) : Frame d d files dirs where
  directory_stays _ h := h
  file_stays _ _ _ h := h
  new_directory _ h := .inl h
  new_file _ _ _ h := h

/-- Frames compose. -/
theorem trans (h : Frame d d' files dirs) (h' : Frame d' d'' files dirs) :
    Frame d d'' files dirs where
  directory_stays q hq := h'.directory_stays q (h.directory_stays q hq)
  file_stays q content hne hq := h'.file_stays q content hne (h.file_stays q content hne hq)
  new_directory q hq := (h'.new_directory q hq).elim (h.new_directory q) .inr
  new_file q content hne hq := h.new_file q content hne (h'.new_file q content hne hq)

/-- A frame for fewer places is one for more. -/
theorem mono (h : Frame d d' files dirs) (hfiles : ∀ q, files q → files' q)
    (hdirs : ∀ q, dirs q → dirs' q) : Frame d d' files' dirs' where
  directory_stays := h.directory_stays
  file_stays q content hne := h.file_stays q content fun hq => hne (hfiles q hq)
  new_directory q hq := (h.new_directory q hq).imp_right (hdirs q)
  new_file q content hne := h.new_file q content fun hq => hne (hfiles q hq)

/-- The root is a directory of every disk, so it is never a new one. -/
theorem of_ne_root (h : Frame d d' files dirs) : Frame d d' files fun q => q ≠ [] ∧ dirs q where
  directory_stays := h.directory_stays
  file_stays := h.file_stays
  new_directory q hq := by
    by_cases hroot : q = []
    · subst hroot
      exact .inl d.lookAt_nil
    · exact (h.new_directory q hq).imp_right fun hdirs => ⟨hroot, hdirs⟩
  new_file := h.new_file

/-- A file that comes to a place where no directory is changes nothing else. -/
theorem of_file (hold : d.lookAt here ≠ some .directory)
    (hnew : d'.lookAt here = some (.file content))
    (hother : ∀ q, q ≠ here → d'.lookAt q = d.lookAt q) :
    Frame d d' (· = here) fun _ => False where
  directory_stays q hq := by
    rw [hother q (by rintro rfl; exact hold hq), hq]
  file_stays q _ hne hq := by rw [hother q hne, hq]
  new_directory q hq := by
    rw [hother q (by rintro rfl; rw [hnew] at hq; cases hq)] at hq
    exact .inl hq
  new_file q _ hne hq := by rwa [hother q hne] at hq

/-- A directory that comes to a free place changes nothing else. -/
theorem of_directory (hnone : d.lookAt here = none) (hnew : d'.lookAt here = some .directory)
    (hother : ∀ q, q ≠ here → d'.lookAt q = d.lookAt q) :
    Frame d d' (fun _ => False) (· = here) where
  directory_stays q hq := by
    rw [hother q (by rintro rfl; rw [hnone] at hq; cases hq), hq]
  file_stays q _ _ hq := by
    rw [hother q (by rintro rfl; rw [hnone] at hq; cases hq), hq]
  new_directory q hq := by
    by_cases hhere : q = here
    · exact .inr hhere
    · exact .inl (by rwa [hother q hhere] at hq)
  new_file q _ _ hq := by
    rwa [hother q (by rintro rfl; rw [hnew] at hq; cases hq)] at hq

/-- A file that is not touched is read as before. -/
theorem read_stays (h : Frame d d' files dirs) (hne : ¬ files p.place)
    (hread : d.read p = .ok content) : d'.read p = .ok content := by
  obtain ⟨hnull, hloc, hlook⟩ := read_eq_ok.mp hread
  obtain ⟨-, hlong, hfollow⟩ := locate_eq_ok.mp hloc
  have hstays := h.file_stays p.place content hne hlook
  refine read_eq_ok.mpr ⟨hnull, locate_eq_ok.mpr ⟨rfl, hlong, ?_⟩, hstays⟩
  exact follow_of_directories h.directory_stays hfollow (by rw [hstays]; rfl)

end Frame

/-- Removing a file touches the place of its path. -/
theorem frame_remove (h : d.remove p = .ok d') : Frame d d' (· = p.place) fun _ => False := by
  rcases remove_eq_ok.mp h with ⟨-, rfl⟩ | ⟨content, -, rfl⟩
  · exact .refl d' _ _
  · exact {
      directory_stays := fun q hq => lookAt_eraseFile_of_directory hq
      file_stays := fun q content hne hq =>
        lookAt_eraseFile_eq_some.mpr ⟨hq, fun hhere => hne hhere.1⟩
      new_directory := fun q hq => .inl (lookAt_eraseFile_eq_some.mp hq).1
      new_file := fun q content _ hq => (lookAt_eraseFile_eq_some.mp hq).1 }

/-- A created file touches the place of its path. -/
theorem frame_create (h : d.create p = .ok d') : Frame d d' (· = p.place) fun _ => False := by
  obtain ⟨-, hnone, hnew, hother⟩ := locate_add h
  refine .of_file ?_ hnew hother
  rw [hnone]
  simp

/-- A written file touches the place of its path. -/
theorem frame_write (h : d.write p content = .ok d') : Frame d d' (· = p.place) fun _ => False := by
  obtain ⟨-, hold, hnew, hother⟩ := locate_write h
  exact .of_file hold hnew hother

/-- Where the beginnings of segments lead from the root. -/
def Passes (xs : List Segment) (q : Place) : Prop := ∃ init, init <+: xs ∧ q = Place.walk [] init

private theorem frame_add_directory (h : d.add p .directory = .ok d') :
    Frame d d' (fun _ => False) (Passes p.segments) := by
  obtain ⟨-, hnone, hnew, hother⟩ := locate_add h
  refine (Frame.of_directory hnone hnew hother).mono (fun _ hq => hq) ?_
  rintro q rfl
  exact ⟨p.segments, List.prefix_refl _, rfl⟩

/-- Making directories makes them where the beginnings of their path lead. -/
theorem frame_makeDirs (d : Disk) (p : Path) :
    Frame d (d.makeDirs p).2 (fun _ => False) (Passes p.segments) := by
  have hparent : ∀ p : Path, ∀ q, Passes p.parent.segments q → Passes p.segments q := by
    rintro p q ⟨init, hinit, rfl⟩
    exact ⟨init, hinit.trans (List.dropLast_prefix _), rfl⟩
  fun_induction makeDirs d p with
  | case1 p d' h => exact frame_add_directory h
  | case2 p q h hroot => exact .refl d _ _
  | case3 p q h hroot e made hmade ih =>
    rw [hmade] at ih
    exact ih.mono (fun _ hq => hq) (hparent p)
  | case4 p q h hroot made hmade ih =>
    rw [hmade] at ih
    refine (ih.mono (fun _ hq => hq) (hparent p)).trans ?_
    rw [makeLast]
    split
    · next hadd => exact frame_add_directory hadd
    · exact .refl made _ _
  | case5 p e hne h => exact .refl d _ _

end TestSkeleton.Disk
