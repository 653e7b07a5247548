import TestSkeleton.Proofs.Disk.Files
import TestSkeleton.Proofs.Disk.Found

/-!
# Opening and erasing listed files

A listed file can be opened, unless its path is one that a disk does not take. When a file is
erased, the listings lose it, and everything else on the disk is looked up and read as before.
-/

namespace TestSkeleton.Disk

variable {d : Disk} {dir p : Path} {content : ByteArray} {q place : Place}

/-! ### Opening -/

/-- What is read at the path of a listed file is its content. -/
theorem eq_of_read {content' : ByteArray} (h : (p, content) ∈ d.filesBelow dir)
    (hread : d.read p = .ok content') : content' = content := by
  have hlook := (read_eq_ok.mp hread).2.2
  rw [lookAt_of_mem_filesBelow h] at hlook
  cases hlook
  rfl

/-- A listed file can be opened if a disk takes its path. -/
theorem read_of_mem_filesBelow (h : (p, content) ∈ d.filesBelow dir) (hnull : p.hasNull = false)
    (hlong : p.isTooLong = false) (hshort : ∀ s ∈ p.segments, s.isTooLong = false) :
    d.read p = .ok content := by
  have hlook := lookAt_of_mem_filesBelow h
  have hloc := locate_of_mem_filesBelow h
  obtain ⟨names, -, rfl, hnames⟩ := (mem_filesBelow hloc).mp h
  have hplace := place_of_lookAt hnames
  refine read_eq_ok.mpr ⟨hnull, locate_eq_ok.mpr ⟨rfl, hlong, ?_⟩, hlook⟩
  have hup : .up ∉ names := fun hmem => up_not_mem_of_lookAt hnames (by simp [hmem])
  rw [follow_append_of_ok (locate_eq_ok.mp hloc).2.2, hplace]
  refine follow_of_lookAt hup (fun s hs => hshort s (List.mem_append_right _ hs)) ?_
  rw [hnames]
  rfl

/-! ### Erasing -/

private theorem directory_of_eraseFile (h : (d.eraseFile q).lookAt place = some .directory) :
    d.lookAt place = some .directory :=
  (lookAt_eraseFile_eq_some.mp h).1

/-- A path to another place leads to what it led to before. -/
theorem find?_eraseFile_eq_some {e : Entry} (hne : p.place ≠ q) :
    (d.eraseFile q).find? p = .ok (some (p.place, e)) ↔ d.find? p = .ok (some (p.place, e)) := by
  have hsame := d.lookAt_eraseFile_of_ne hne
  constructor
  · intro h
    apply find?_of_directories h (fun _ => directory_of_eraseFile)
    rw [← hsame]
    exact (find?_eq_some.mp h).2.2.2
  · intro h
    apply find?_of_directories h (fun _ => lookAt_eraseFile_of_directory)
    rw [hsame]
    exact (find?_eq_some.mp h).2.2.2

/-- A path to another place is read as before. -/
theorem read_eraseFile_eq_ok (hne : p.place ≠ q) :
    (d.eraseFile q).read p = .ok content ↔ d.read p = .ok content := by
  rw [read_eq_ok_iff_find?, read_eq_ok_iff_find?, find?_eraseFile_eq_some hne]

/-- A path to another place is opened exactly if it was before. -/
theorem isOk_read_eraseFile (hne : p.place ≠ q) :
    ((d.eraseFile q).read p).isOk = (d.read p).isOk := by
  cases hbefore : d.read p with
  | ok content => rw [(read_eraseFile_eq_ok hne).mpr hbefore]
  | error e =>
    cases hnow : (d.eraseFile q).read p with
    | error e' => rfl
    | ok content =>
      rw [(read_eraseFile_eq_ok hne).mp hnow] at hbefore
      cases hbefore

-- On a disk that still has all directories, the question for a directory has the answer that it
-- had, unless that was no.
private theorem isDirectory_of_directories {d' : Disk} {answer : Except Failure Bool}
    (hdirs : ∀ place, d.lookAt place = some .directory → d'.lookAt place = some .directory)
    (h : d.isDirectory p = answer) (hne : answer ≠ .ok false) : d'.isDirectory p = answer := by
  rcases answer with e | _ | _
  · obtain ⟨hnull, hloc, rfl⟩ := isDirectory_eq_error.mp h
    refine isDirectory_eq_error.mpr ⟨hnull, ?_, rfl⟩
    rw [locate] at hloc ⊢
    cases hlong : p.isTooLong with
    | true => rfl
    | false =>
      rw [hlong] at hloc
      exact follow_nameTooLong_of_directories hdirs hloc
  · exact absurd rfl hne
  · have hfound := isDirectory_eq_true.mp h
    apply isDirectory_eq_true.mpr
    exact find?_of_directories hfound hdirs (hdirs _ (find?_eq_some.mp hfound).2.2.2)

/-- A directory is found exactly where it was. -/
theorem isDirectory_eraseFile (d : Disk) (q : Place) (p : Path) :
    (d.eraseFile q).isDirectory p = d.isDirectory p := by
  by_cases hbefore : d.isDirectory p = .ok false
  · by_cases hnow : (d.eraseFile q).isDirectory p = .ok false
    · rw [hnow, hbefore]
    · exact (isDirectory_of_directories (fun _ => directory_of_eraseFile) rfl hnow).symm
  · exact isDirectory_of_directories (fun _ => lookAt_eraseFile_of_directory) rfl hbefore

private theorem filterMap_filter_eq {α β : Type} {f : α → Option β} {keep : α → Bool}
    {keep' : β → Bool} {xs : List α} (h : ∀ x ∈ xs, ∀ y, f x = some y → keep x = keep' y) :
    (xs.filter keep).filterMap f = (xs.filterMap f).filter keep' := by
  rw [List.filterMap_filter, List.filter_filterMap]
  refine List.filterMap_congr fun x hx => ?_
  cases hy : f x with
  | none => simp
  | some y => simp [h x hx y hy, Option.filter]

private theorem below_eraseFile (d : Disk) (q here : Place) :
    (d.eraseFile q).below here = (d.below here).filter fun x =>
      !(decide (x.1.reverse ++ here = q) && x.2.isFile) := by
  refine filterMap_filter_eq fun x _ y hy => ?_
  rw [(eq_of_below hy).2]

private theorem locate_of_directories {d' : Disk} {f : Path × ByteArray}
    (hdirs : ∀ place, d.lookAt place = some .directory → d'.lookAt place = some .directory)
    (hf : f ∈ d.filesBelow dir) : d'.locate dir = .ok dir.place := by
  have hloc := locate_of_mem_filesBelow hf
  obtain ⟨names, hne, -, hlook⟩ := (mem_filesBelow hloc).mp hf
  have hdir : d.lookAt dir.place = some .directory :=
    lookAt_of_append (by rw [hlook]; rfl) (by simpa using hne)
  obtain ⟨-, hlong, hfollow⟩ := locate_eq_ok.mp hloc
  refine locate_eq_ok.mpr ⟨rfl, hlong, follow_of_directories hdirs hfollow ?_⟩
  rw [hdirs _ hdir]
  rfl

/-- A listing loses the file that is erased, and nothing else. -/
theorem filesBelow_eraseFile (d : Disk) (q : Place) (dir : Path) :
    (d.eraseFile q).filesBelow dir =
      (d.filesBelow dir).filter fun f => decide (f.1.place ≠ q) := by
  rcases List.eq_nil_or_concat' (d.filesBelow dir) with hempty | ⟨files, f, hfiles⟩
  · -- a file that is listed now was listed before
    rw [hempty, List.filter_nil, List.eq_nil_iff_forall_not_mem]
    rintro ⟨p, content⟩ hf
    have hloc := locate_of_directories (fun _ => directory_of_eraseFile) hf
    obtain ⟨names, hne, hp, hlook⟩ := (mem_filesBelow (locate_of_mem_filesBelow hf)).mp hf
    have hmem := (mem_filesBelow hloc).mpr ⟨names, hne, hp, (lookAt_eraseFile_eq_some.mp hlook).1⟩
    rw [hempty] at hmem
    cases hmem
  · have hf : f ∈ d.filesBelow dir := by simp [hfiles]
    rw [filesBelow, filesBelow, locate_of_mem_filesBelow hf,
      locate_of_directories (fun _ => lookAt_eraseFile_of_directory) hf]
    dsimp only
    rw [below_eraseFile]
    refine filterMap_filter_eq fun x hx y hy => ?_
    rcases x with ⟨names, _ | content⟩
    · cases hy
    · cases hy
      have hplace := place_of_lookAt (mem_below.mp hx).2
      simp [hplace, Entry.isFile]

end TestSkeleton.Disk
