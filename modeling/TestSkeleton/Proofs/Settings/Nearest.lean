import TestSkeleton.Disk.Files
import TestSkeleton.Proofs.Settings.Lookup
import TestSkeleton.Proofs.Text.Segments

/-!
# The nearest project

The project of a directory is the nearest directory at or above it with a project file. Settings and
messages look for it separately. They find the same one, except that the search for settings ends
before the root of the disk: a project there is missed.

Specification: `SPEC_FULL.md:202–203`.
-/

namespace TestSkeleton

variable {disk : Disk} {dir p q : Path} {dirs : List Path} {e : Failure}

namespace Path

/-- A path is at or above another one if that one goes on from it. -/
def AtOrAbove (p dir : Path) : Prop := p.anchor = dir.anchor ∧ p.segments <+: dir.segments

/-- The search looks at the directory and at every directory above it. -/
theorem mem_selfAndAncestors_iff : p ∈ dir.selfAndAncestors ↔ p.AtOrAbove dir := by
  rw [selfAndAncestors, List.mem_map]
  constructor
  · rintro ⟨n, -, rfl⟩
    exact ⟨rfl, List.take_prefix _ _⟩
  · rintro ⟨hanchor, hprefix⟩
    have hlength := hprefix.length_le
    refine ⟨dir.segments.length - p.segments.length, List.mem_range.mpr (by omega), ?_⟩
    have hback : dir.segments.length - (dir.segments.length - p.segments.length) =
        p.segments.length := by omega
    rw [hback, ← List.prefix_iff_eq_take.mp hprefix, ← hanchor]

/-- The paths at or above a path become shorter and shorter. -/
theorem pairwise_selfAndAncestors (dir : Path) :
    dir.selfAndAncestors.Pairwise fun p q => q.segments.length < p.segments.length := by
  rw [selfAndAncestors, List.pairwise_map]
  refine List.pairwise_lt_range.imp_of_mem fun {m n} hm hn hlt => ?_
  rw [List.mem_range] at hm hn
  simp only [List.length_take]
  omega

/-- The last of the paths at or above a path has no segments. -/
theorem selfAndAncestors_eq (dir : Path) :
    dir.selfAndAncestors = dir.selfAndAncestors.dropLast ++ [⟨dir.anchor, []⟩] := by
  rw [selfAndAncestors, List.range_succ, List.map_append, List.map_singleton, Nat.sub_self,
    List.take_zero, List.dropLast_concat]

/-- All but the last of the paths at or above a path have segments. -/
theorem segments_ne_nil_of_mem_dropLast (h : p ∈ dir.selfAndAncestors.dropLast) :
    p.segments ≠ [] := by
  have hpairwise := pairwise_selfAndAncestors dir
  rw [selfAndAncestors_eq, List.pairwise_append] at hpairwise
  have hlength := hpairwise.2.2 p h _ (List.mem_singleton_self _)
  rintro hnil
  rw [hnil] at hlength
  exact Nat.lt_irrefl _ hlength

end Path

/-! ### The first project of a list -/

/-- A directory holds a project file. -/
def HoldsProject (disk : Disk) (dir : Path) : Prop := disk.isFile (dir.join projectFile) = .ok true

/-- A directory holds no project file, as far as can be told. -/
def LacksProject (disk : Disk) (dir : Path) : Prop :=
  disk.isFile (dir.join projectFile) = .ok false

/-- The search passes a directory without a project file. -/
theorem firstProject?_of_lacks (rest : List Path) (h : LacksProject disk dir) :
    firstProject? disk (dir :: rest) = firstProject? disk rest := by
  rw [firstProject?, h]
  rfl

/-- The search ends at a directory with a project file. -/
theorem firstProject?_of_holds (rest : List Path) (h : HoldsProject disk dir) :
    firstProject? disk (dir :: rest) = .ok (some dir) := by
  rw [firstProject?, h]
  rfl

/-- The search ends where the disk fails. -/
theorem firstProject?_of_error (rest : List Path) (h : disk.isFile (dir.join projectFile) = .error e) :
    firstProject? disk (dir :: rest) = .error e := by
  rw [firstProject?, h]
  rfl

/-- The first project of a list is the first directory in it that holds a project file. -/
theorem firstProject?_eq_some :
    firstProject? disk dirs = .ok (some p) ↔
      ∃ before after, dirs = before ++ p :: after ∧ (∀ q ∈ before, LacksProject disk q) ∧
        HoldsProject disk p := by
  constructor
  · intro h
    induction dirs with
    | nil => cases h
    | cons dir rest ih =>
      cases hfile : disk.isFile (dir.join projectFile) with
      | error e =>
        rw [firstProject?_of_error rest hfile] at h
        cases h
      | ok b =>
        cases b with
        | true =>
          rw [firstProject?_of_holds rest hfile] at h
          cases h
          exact ⟨[], rest, rfl, nofun, hfile⟩
        | false =>
          rw [firstProject?_of_lacks rest hfile] at h
          obtain ⟨before, after, rfl, hlacks, hholds⟩ := ih h
          exact ⟨dir :: before, after, rfl, List.forall_mem_cons.mpr ⟨hfile, hlacks⟩, hholds⟩
  · rintro ⟨before, after, rfl, hlacks, hholds⟩
    induction before with
    | nil => exact firstProject?_of_holds after hholds
    | cons dir before ih =>
      obtain ⟨hdir, hlacks⟩ := List.forall_mem_cons.mp hlacks
      rw [List.cons_append, firstProject?_of_lacks _ hdir, ih hlacks]

/-- A list has no project if none of its directories holds a project file. -/
theorem firstProject?_eq_none :
    firstProject? disk dirs = .ok none ↔ ∀ q ∈ dirs, LacksProject disk q := by
  induction dirs with
  | nil => simp [firstProject?]
  | cons dir rest ih =>
    rw [List.forall_mem_cons, ← ih]
    cases hfile : disk.isFile (dir.join projectFile) with
    | error e => simp [firstProject?_of_error rest hfile, LacksProject, hfile]
    | ok b =>
      cases b with
      | true => simp [firstProject?_of_holds rest hfile, LacksProject, hfile]
      | false => simp [firstProject?_of_lacks rest hfile, LacksProject, hfile]

/-- Two lists are searched one after the other. -/
theorem firstProject?_append (before after : List Path) :
    firstProject? disk (before ++ after) =
      firstProject? disk before >>= fun found =>
        found.elim (firstProject? disk after) fun p => .ok (some p) := by
  induction before with
  | nil => rfl
  | cons dir rest ih =>
    rw [List.cons_append]
    cases hfile : disk.isFile (dir.join projectFile) with
    | error e =>
      rw [firstProject?_of_error _ hfile, firstProject?_of_error _ hfile]
      rfl
    | ok b =>
      cases b with
      | true =>
        rw [firstProject?_of_holds _ hfile, firstProject?_of_holds _ hfile]
        rfl
      | false => rw [firstProject?_of_lacks _ hfile, firstProject?_of_lacks _ hfile, ih]

/-! ### The project of a directory -/

/-- A directory at or above another one holds a project file, and none nearer does. -/
structure IsNearest (disk : Disk) (dir p : Path) : Prop where
  above : p.AtOrAbove dir.resolve
  holds : HoldsProject disk p
  nearest : ∀ q, q.AtOrAbove dir.resolve → p.segments.length < q.segments.length →
    LacksProject disk q

/-- No directory at or above another one holds a project file. -/
def NoProject (disk : Disk) (dir : Path) : Prop := ∀ q, q.AtOrAbove dir.resolve → LacksProject disk q

/-- The search through all directories finds the nearest project. -/
theorem isNearest_iff :
    firstProject? disk dir.resolve.selfAndAncestors = .ok (some p) ↔ IsNearest disk dir p := by
  rw [firstProject?_eq_some]
  have hpairwise := Path.pairwise_selfAndAncestors dir.resolve
  constructor
  · rintro ⟨before, after, hsplit, hlacks, hholds⟩
    refine ⟨Path.mem_selfAndAncestors_iff.mp (by rw [hsplit]; simp), hholds, ?_⟩
    intro q hq hlt
    have hmem := Path.mem_selfAndAncestors_iff.mpr hq
    rw [hsplit] at hmem hpairwise
    rcases List.mem_append.mp hmem with hmem | hmem
    · exact hlacks q hmem
    · have htail := (List.pairwise_append.mp hpairwise).2.1
      rcases List.mem_cons.mp hmem with rfl | hmem
      · exact absurd hlt (Nat.lt_irrefl _)
      · exact absurd hlt (Nat.lt_asymm (List.rel_of_pairwise_cons htail hmem))
  · rintro ⟨habove, hholds, hnearest⟩
    obtain ⟨before, after, hsplit⟩ :=
      List.append_of_mem (Path.mem_selfAndAncestors_iff.mpr habove)
    refine ⟨before, after, hsplit, ?_, hholds⟩
    intro q hq
    rw [hsplit] at hpairwise
    refine hnearest q (Path.mem_selfAndAncestors_iff.mp (by rw [hsplit]; simp [hq])) ?_
    exact (List.pairwise_append.mp hpairwise).2.2 q hq p List.mem_cons_self

/-- The search through all directories finds nothing exactly where there is no project. -/
theorem noProject_iff :
    firstProject? disk dir.resolve.selfAndAncestors = .ok none ↔ NoProject disk dir := by
  simp only [firstProject?_eq_none, Path.mem_selfAndAncestors_iff, NoProject]

/-- Whether there is a project file at the root can always be told. -/
theorem lacks_or_holds_of_nil (disk : Disk) (p : Path) (h : p.segments = []) :
    LacksProject disk p ∨ HoldsProject disk p := by
  obtain ⟨anchor, segments⟩ := p
  subst h
  have hfind : ∃ found, disk.find? (Path.join ⟨anchor, []⟩ projectFile) = .ok found := by
    refine ⟨_, Disk.find?_of_not_mem_up ?_ ?_ ?_ ?_⟩
    all_goals cases anchor <;> decide
  obtain ⟨found, hfound⟩ := hfind
  rw [LacksProject, HoldsProject, Disk.isFile, hfound]
  cases found.any fun x => x.2.isFile <;> simp [Except.map]

namespace Settings

/-- Settings have the project of their directory, unless that is the root. -/
theorem project?_eq (disk : Disk) (dir : Path) :
    project? disk dir =
      (firstProject? disk dir.resolve.selfAndAncestors).map (·.filter (!·.segments.isEmpty)) := by
  rw [project?, Path.selfAndAncestors_eq, List.dropLast_concat, firstProject?_append]
  cases hfirst : firstProject? disk dir.resolve.selfAndAncestors.dropLast with
  | error e => rfl
  | ok found =>
    cases found with
    | some p =>
      obtain ⟨before, after, hsplit, -, -⟩ := firstProject?_eq_some.mp hfirst
      have hmem : p ∈ dir.resolve.selfAndAncestors.dropLast := by rw [hsplit]; simp
      have hne := Path.segments_ne_nil_of_mem_dropLast hmem
      simp [bind, Except.bind, Except.map, Option.filter, hne]
    | none =>
      let root : Path := ⟨dir.resolve.anchor, []⟩
      change .ok none = (firstProject? disk [root]).map (·.filter (!·.segments.isEmpty))
      rcases lacks_or_holds_of_nil disk root rfl with hroot | hroot
      · rw [firstProject?_of_lacks [] hroot]
        rfl
      · rw [firstProject?_of_holds [] hroot]
        rfl

/-- A directory has a project exactly if one at or above it is nearest; without one it is its own.
Settings have the same project, unless that is the root: then they have none. Both searches fail
alike. -/
theorem project?_agrees (disk : Disk) (dir : Path) :
    (∀ p, projectOf disk dir = .ok p ↔
      IsNearest disk dir p ∨ NoProject disk dir ∧ p = dir.resolve) ∧
    (∀ p, project? disk dir = .ok (some p) ↔ IsNearest disk dir p ∧ p.segments ≠ []) ∧
    (project? disk dir = .ok none ↔
      NoProject disk dir ∨ ∃ p, IsNearest disk dir p ∧ p.segments = []) ∧
    ∀ e, project? disk dir = .error e ↔ projectOf disk dir = .error e := by
  refine ⟨fun p => ?_, fun p => ?_, ?_, fun e => ?_⟩
  · rw [projectOf, Outcome.bind_eq_ok, ← isNearest_iff, ← noProject_iff]
    constructor
    · rintro ⟨found, hfound, h⟩
      cases h
      cases found with
      | some p => exact .inl hfound
      | none => exact .inr ⟨hfound, rfl⟩
    · rintro (hfound | ⟨hfound, rfl⟩)
      · exact ⟨some p, hfound, rfl⟩
      · exact ⟨none, hfound, rfl⟩
  · rw [project?_eq, Outcome.map_eq_ok, ← isNearest_iff]
    constructor
    · rintro ⟨found, hfound, h⟩
      obtain ⟨rfl, hne⟩ := Option.filter_eq_some_iff.mp h
      exact ⟨hfound, by simpa using hne⟩
    · rintro ⟨hfound, hne⟩
      exact ⟨some p, hfound, Option.filter_eq_some_iff.mpr ⟨rfl, by simpa using hne⟩⟩
  · rw [project?_eq, Outcome.map_eq_ok, ← noProject_iff]
    simp only [← isNearest_iff]
    constructor
    · rintro ⟨found, hfound, h⟩
      cases found with
      | none => exact .inl hfound
      | some p => exact .inr ⟨p, hfound, by simpa [Option.filter_eq_none_iff] using h⟩
    · rintro (hfound | ⟨p, hfound, hnil⟩)
      · exact ⟨none, hfound, rfl⟩
      · exact ⟨some p, hfound, by simp [Option.filter_eq_none_iff, hnil]⟩
  · rw [project?_eq, Outcome.map_eq_error, projectOf, Outcome.bind_eq_error]
    constructor
    · exact .inl
    · rintro (h | ⟨found, -, h⟩)
      · exact h
      · cases h

/-- The nearest project at the root of the disk is that of messages, while settings have none. -/
theorem project?_misses_root :
    ∃ (disk : Disk) (dir root : Path), IsNearest disk dir root ∧ projectOf disk dir = .ok root ∧
      project? disk dir = .ok none := by
  let disk : Disk := Disk.empty.put (.ofString "/pyproject.toml") ⟨#[]⟩
  have hfirst : firstProject? disk (Path.ofString "/work").resolve.selfAndAncestors =
      .ok (some (.ofString "/")) := by decide +kernel
  refine ⟨disk, .ofString "/work", .ofString "/", isNearest_iff.mp hfirst, ?_, ?_⟩
  · rw [projectOf, hfirst]
    rfl
  · rw [project?_eq, hfirst]
    rfl

end Settings
end TestSkeleton
