import TestSkeleton.Proofs.Disk.Found
import TestSkeleton.Proofs.Settings.Faults

/-!
# Where settings are looked for

The settings of a directory come from project files above it. On a disk that has changed nothing but
other files and directories they are the same.
-/

namespace TestSkeleton

variable {disk disk' : Disk} {dir : Path} {files dirs : Place → Prop}

/-- The name of project files. -/
def projectName : Segment := ⟨"pyproject.toml", rfl⟩

/-- The path of a project file has one segment. -/
theorem segments_projectFile : projectFile.segments = [projectName] := by decide

/-- The project file of a directory is in the directory itself. -/
theorem segments_join_projectFile (dir : Path) :
    (dir.join projectFile).segments = dir.segments ++ [projectName] := by
  rw [← segments_projectFile]
  rfl

/-- A project file is at a place of that name. -/
theorem place_join_projectFile (dir : Path) :
    (dir.join projectFile).place = projectName :: dir.place := by
  have hname : projectName ≠ .up := by decide
  rw [Path.place, segments_join_projectFile, Place.walk_append, Place.walk, if_neg hname]
  rfl

/-- The first project among some directories is the same where no project file has changed. -/
theorem firstProject?_stays (h : Disk.Frame disk disk' files dirs)
    (hfiles : ∀ q, ¬ files (projectName :: q)) {candidates : List Path}
    (hcandidates : ∀ dir ∈ candidates, ∀ s ∈ dir.segments, s ≠ .up ∧ s.isTooLong = false) :
    firstProject? disk' candidates = firstProject? disk candidates := by
  induction candidates with
  | nil => rfl
  | cons dir rest ih =>
    have hsegments : ∀ s ∈ (dir.join projectFile).segments, s ≠ .up ∧ s.isTooLong = false := by
      intro s hs
      rw [segments_join_projectFile, List.mem_append, List.mem_singleton] at hs
      rcases hs with hs | rfl
      · exact hcandidates dir List.mem_cons_self s hs
      · decide
    have hfile : disk'.isFile (dir.join projectFile) = disk.isFile (dir.join projectFile) := by
      refine Disk.isFile_stays h (fun hup => (hsegments _ hup).1 rfl) (fun s hs => (hsegments s hs).2) ?_
      rw [place_join_projectFile]
      exact hfiles _
    rw [firstProject?, firstProject?, hfile, ih fun d hd => hcandidates d (List.mem_cons_of_mem _ hd)]

namespace Settings

/-- The settings of a directory are the same where no project file has changed. -/
theorem load_stays (h : Disk.Frame disk disk' files dirs) (hfiles : ∀ q, ¬ files (projectName :: q))
    (hshort : ∀ s ∈ dir.segments, s.isTooLong = false) : load disk' dir = load disk dir := by
  have hproject : project? disk' dir = project? disk dir := by
    refine firstProject?_stays h hfiles fun d hd s hs => ?_
    have hmem := Path.mem_resolve
      ((Path.mem_selfAndAncestors (List.mem_of_mem_dropLast hd)).subset hs)
    exact ⟨hmem.2, hshort s hmem.1⟩
  rw [load, load, hproject]
  cases hfound : project? disk dir with
  | error e => rfl
  | ok found =>
    cases found with
    | none => rfl
    | some project =>
      obtain ⟨content, hread⟩ := read_of_firstProject? hfound
      have hread' : disk'.read (project.join projectFile) = .ok content :=
        h.read_stays (by rw [place_join_projectFile]; exact hfiles _) hread
      change (disk'.read (project.join projectFile) >>= _) =
        (disk.read (project.join projectFile) >>= _)
      rw [hread, hread']

end Settings
end TestSkeleton
