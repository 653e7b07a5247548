import TestSkeleton.Disk.Lookup
import TestSkeleton.Proofs.Disk.Entries
import TestSkeleton.Proofs.Outcome

/-!
# Following paths

Where segments lead on a disk, step by step. The segments alone say where a path leads, if it leads
anywhere: the disk only decides whether it does. A step needs a directory to start from, so a path
that leads somewhere leads there also on a disk that has the same directories.
-/

namespace TestSkeleton

/-- Where segments lead from a place, if there is something at every step. -/
def Place.walk : Place → List Segment → Place
  | here, [] => here
  | here, s :: rest => walk (if s = .up then here.tail else s :: here) rest

/-- No segments lead nowhere else. -/
@[simp] theorem Place.walk_nil (here : Place) : Place.walk here [] = here := rfl

/-- Segments lead on from where the segments before them lead. -/
theorem Place.walk_append (here : Place) (xs ys : List Segment) :
    Place.walk here (xs ++ ys) = Place.walk (Place.walk here xs) ys := by
  induction xs generalizing here with
  | nil => rfl
  | cons s xs ih => exact ih _

/-- Without steps upwards segments lead to the place that they spell. -/
theorem Place.walk_of_not_mem_up {here : Place} {xs : List Segment} (hup : .up ∉ xs) :
    Place.walk here xs = xs.reverse ++ here := by
  induction xs generalizing here with
  | nil => rfl
  | cons s xs ih =>
    rw [List.mem_cons, not_or] at hup
    rw [walk, if_neg fun hs => hup.1 hs.symm, ih hup.2, List.reverse_cons, List.append_assoc,
      List.singleton_append]

/-- The place that a path leads to, if it leads anywhere. -/
def Path.place (p : Path) : Place := Place.walk [] p.segments

namespace Disk

variable {d d' : Disk} {here r : Place} {s : Segment} {xs ys : List Segment}

/-- A step leads out of a directory: upwards, or to something of that name. -/
theorem follow_cons_eq_ok :
    d.follow here (s :: xs) = .ok r ↔
      d.lookAt here = some .directory ∧
        ((s = .up ∧ d.follow here.tail xs = .ok r) ∨
          (s ≠ .up ∧ s.isTooLong = false ∧ (d.lookAt (s :: here)).isSome ∧
            d.follow (s :: here) xs = .ok r)) := by
  rw [follow]
  cases hhere : d.lookAt here with
  | none => simp
  | some e =>
    cases e with
    | file content => simp
    | directory =>
      by_cases hs : s = .up
      · simp [hs]
      · by_cases hlong : s.isTooLong
        · simp [hs, hlong]
        · cases hnext : d.lookAt (s :: here) with
          | none => simp [hs, hlong]
          | some e => simp [hs, hlong]

/-- Where segments lead depends on what is at the places of a disk only. -/
theorem follow_congr (h : ∀ q, d.lookAt q = d'.lookAt q) (here : Place) (xs : List Segment) :
    d.follow here xs = d'.follow here xs := by
  induction xs generalizing here with
  | nil => rfl
  | cons s xs ih => simp only [follow, h, ih]

/-- Two lists of segments are followed one after the other. -/
theorem follow_append_eq_ok :
    d.follow here (xs ++ ys) = .ok r ↔
      ∃ mid, d.follow here xs = .ok mid ∧ d.follow mid ys = .ok r := by
  induction xs generalizing here with
  | nil => simp [follow]
  | cons s xs ih =>
    rw [List.cons_append, follow_cons_eq_ok]
    simp only [ih, follow_cons_eq_ok]
    constructor
    · rintro ⟨hdir, ⟨hs, mid, hxs, hys⟩ | ⟨hs, hlong, hsome, mid, hxs, hys⟩⟩
      · exact ⟨mid, ⟨hdir, .inl ⟨hs, hxs⟩⟩, hys⟩
      · exact ⟨mid, ⟨hdir, .inr ⟨hs, hlong, hsome, hxs⟩⟩, hys⟩
    · rintro ⟨mid, ⟨hdir, ⟨hs, hxs⟩ | ⟨hs, hlong, hsome, hxs⟩⟩, hys⟩
      · exact ⟨hdir, .inl ⟨hs, mid, hxs, hys⟩⟩
      · exact ⟨hdir, .inr ⟨hs, hlong, hsome, mid, hxs, hys⟩⟩

/-- Wherever segments lead, the disk has no part in it. -/
theorem eq_walk_of_follow (h : d.follow here xs = .ok r) : r = Place.walk here xs := by
  induction xs generalizing here with
  | nil =>
    cases h
    rfl
  | cons s xs ih =>
    rw [Place.walk]
    obtain ⟨-, ⟨hs, hnext⟩ | ⟨hs, -, -, hnext⟩⟩ := follow_cons_eq_ok.mp h
    · rw [if_pos hs]
      exact ih hnext
    · rw [if_neg hs]
      exact ih hnext

/-- A path leads to the same place where all directories on its way are still there, and something
is at that place. -/
theorem follow_of_directories
    (hdirs : ∀ q, d.lookAt q = some .directory → d'.lookAt q = some .directory)
    (h : d.follow here xs = .ok r) (hr : (d'.lookAt r).isSome) : d'.follow here xs = .ok r := by
  induction xs generalizing here with
  | nil => exact h
  | cons s xs ih =>
    obtain ⟨hdir, ⟨hs, hnext⟩ | ⟨hs, hlong, -, hnext⟩⟩ := follow_cons_eq_ok.mp h
    · exact follow_cons_eq_ok.mpr ⟨hdirs _ hdir, .inl ⟨hs, ih hnext⟩⟩
    · refine follow_cons_eq_ok.mpr ⟨hdirs _ hdir, .inr ⟨hs, hlong, ?_, ih hnext⟩⟩
      -- the next place is the last one, or it is a directory
      cases xs with
      | nil =>
        cases hnext
        exact hr
      | cons s' xs =>
        rw [hdirs _ (follow_cons_eq_ok.mp hnext).1]
        rfl

/-- A name that is too long for a disk is met where all directories on the way to it are still
there. -/
theorem follow_nameTooLong_of_directories
    (hdirs : ∀ q, d.lookAt q = some .directory → d'.lookAt q = some .directory)
    (h : d.follow here xs = .error .nameTooLong) : d'.follow here xs = .error .nameTooLong := by
  induction xs generalizing here with
  | nil => cases h
  | cons s xs ih =>
    rw [follow] at h ⊢
    rcases hhere : d.lookAt here with _ | _ | content
    · rw [hhere] at h
      cases h
    · rw [hdirs _ hhere]
      simp only [hhere] at h ⊢
      split at h
      · next hs => rw [if_pos hs, ih h]
      · next hs =>
        rw [if_neg hs]
        cases hlong : s.isTooLong with
        | true => rfl
        | false =>
          simp only [hlong, Bool.false_eq_true, if_false] at h ⊢
          split at h
          · cases h
          · -- the next place is a directory, since the name is met after it
            have hnext : d.lookAt (s :: here) = some .directory := by
              cases xs with
              | nil => cases h
              | cons s' xs =>
                rw [follow] at h
                split at h
                · cases h
                · cases h
                · assumption
            rw [hdirs _ hnext]
            exact ih h
    · rw [hhere] at h
      cases h

/-- A path that is followed leads to its place. -/
theorem locate_eq_ok {p : Path} :
    d.locate p = .ok r ↔
      r = p.place ∧ p.isTooLong = false ∧ d.follow [] p.segments = .ok p.place := by
  rw [locate]
  cases p.isTooLong with
  | true => simp
  | false =>
    simp only [Bool.false_eq_true, if_false, true_and]
    constructor
    · intro h
      obtain rfl : r = p.place := eq_walk_of_follow h
      exact ⟨rfl, h⟩
    · rintro ⟨rfl, h⟩
      exact h

/-- Where a path leads depends on what is at the places of a disk only. -/
theorem locate_congr (h : ∀ q, d.lookAt q = d'.lookAt q) (p : Path) : d.locate p = d'.locate p := by
  simp only [locate, follow_congr h]

/-- What a path leads to is at its place. -/
theorem find?_eq_some {p : Path} {e : Entry} :
    d.find? p = .ok (some (r, e)) ↔
      r = p.place ∧ p.hasNull = false ∧ d.locate p = .ok p.place ∧ d.lookAt p.place = some e := by
  rw [find?]
  cases hnull : p.hasNull with
  | true => simp
  | false =>
    cases hloc : d.locate p with
    | error problem => cases problem <;> simp
    | ok here =>
      obtain rfl : here = p.place := (locate_eq_ok.mp hloc).1
      simp only [Bool.false_eq_true, if_false, Except.ok.injEq, Option.map_eq_some_iff,
        Prod.mk.injEq, true_and]
      constructor
      · rintro ⟨e, hlook, rfl, rfl⟩
        exact ⟨rfl, hlook⟩
      · rintro ⟨rfl, hlook⟩
        exact ⟨e, hlook, rfl, rfl⟩

/-- What a path leads to depends on what is at the places of a disk only. -/
theorem find?_congr (h : ∀ q, d.lookAt q = d'.lookAt q) (p : Path) : d.find? p = d'.find? p := by
  simp only [find?, locate_congr h, h]

/-- A path leads to a directory if there is one at its place. -/
theorem isDirectory_eq_true {p : Path} :
    d.isDirectory p = .ok true ↔ d.find? p = .ok (some (p.place, .directory)) := by
  rw [isDirectory, Outcome.map_eq_ok]
  constructor
  · rintro ⟨_ | ⟨here, _ | content⟩, hfound, h⟩
    · cases h
    · rw [hfound, (find?_eq_some.mp hfound).1]
    · cases h
  · intro hfound
    exact ⟨_, hfound, rfl⟩

/-- The one problem of the question for a directory is a name that is too long for the disk. -/
theorem isDirectory_eq_error {p : Path} {e : Failure} :
    d.isDirectory p = .error e ↔
      p.hasNull = false ∧ d.locate p = .error .nameTooLong ∧ e = .disk .nameTooLong p := by
  rw [isDirectory, Outcome.map_eq_error, find?]
  cases p.hasNull with
  | true => simp
  | false =>
    cases hloc : d.locate p with
    | ok here => simp
    | error problem => cases problem <;> simp [eq_comm]

/-- A directory is where its segments alone say. -/
theorem locate_of_isDirectory {p : Path} (h : d.isDirectory p = .ok true) :
    d.locate p = .ok p.place := by
  obtain ⟨-, -, hloc, -⟩ := find?_eq_some.mp (isDirectory_eq_true.mp h)
  exact hloc

/-- The content of a file is at the place of its path. -/
theorem read_eq_ok {p : Path} {content : ByteArray} :
    d.read p = .ok content ↔
      p.hasNull = false ∧ d.locate p = .ok p.place ∧
        d.lookAt p.place = some (.file content) := by
  rw [read]
  cases p.hasNull with
  | true => simp
  | false =>
    cases hloc : d.locate p with
    | error problem => simp
    | ok here =>
      obtain rfl : here = p.place := (locate_eq_ok.mp hloc).1
      cases hlook : d.lookAt p.place with
      | none => simp [hlook]
      | some e =>
        cases e with
        | directory => simp [hlook]
        | file content' => simp [hlook]

/-- What is read depends on what is at the places of a disk only. -/
theorem read_congr (h : ∀ q, d.lookAt q = d'.lookAt q) (p : Path) : d.read p = d'.read p := by
  simp only [read, locate_congr h, h]

/-- What is read is what is found. -/
theorem read_eq_ok_iff_find? {p : Path} {content : ByteArray} :
    d.read p = .ok content ↔ d.find? p = .ok (some (p.place, .file content)) := by
  rw [read_eq_ok, find?_eq_some, eq_self, true_and]

end Disk
end TestSkeleton
