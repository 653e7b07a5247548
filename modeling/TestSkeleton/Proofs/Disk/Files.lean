import TestSkeleton.Disk.Files
import TestSkeleton.Proofs.Disk.Effects

/-!
# Listed files

What a listing of the files below a directory says about a disk, and the files of a disk that was
made from them.
-/

namespace TestSkeleton.Disk

variable {d : Disk} {dir p : Path} {content : ByteArray} {files : List (Path × ByteArray)}

/-- What is below a place is at the place that its names lead to from there. -/
theorem eq_of_below {here : Place} {x : Place × Entry} {y : List Segment × Entry}
    (h : (if here.isSuffixOf x.1 && x.1 != here then
      some ((x.1.take (x.1.length - here.length)).reverse, x.2) else none) = some y) :
    y.1 ≠ [] ∧ x = (y.1.reverse ++ here, y.2) := by
  split at h
  · next hcond =>
    obtain ⟨q, e⟩ := x
    obtain rfl := Option.some.inj h
    rw [Bool.and_eq_true_iff, List.isSuffixOf_iff_suffix, bne_iff_ne] at hcond
    obtain ⟨⟨names, rfl⟩, hne⟩ := hcond
    dsimp only
    rw [List.length_append, Nat.add_sub_cancel, List.take_left, List.reverse_reverse]
    refine ⟨fun hnil => hne ?_, rfl⟩
    rw [List.reverse_eq_nil_iff.mp hnil, List.nil_append]
  · cases h

/-- Below a place is what is at the places that names lead to from there. -/
theorem mem_below {here : Place} {names : List Segment} {e : Entry} :
    (names, e) ∈ d.below here ↔ names ≠ [] ∧ d.lookAt (names.reverse ++ here) = some e := by
  rw [below, List.mem_filterMap]
  constructor
  · rintro ⟨x, hmem, hx⟩
    obtain ⟨hne, rfl⟩ := eq_of_below hx
    exact ⟨hne, (lookAt_eq_some_iff (d.rooted _ hmem)).mpr hmem⟩
  · rintro ⟨hne, hlook⟩
    have hplace : names.reverse ++ here ≠ [] := by simp [hne]
    have hcond : here.isSuffixOf (names.reverse ++ here) && names.reverse ++ here != here := by
      rw [Bool.and_eq_true_iff, List.isSuffixOf_iff_suffix, bne_iff_ne]
      exact ⟨List.suffix_append _ _, by simpa using hne⟩
    refine ⟨(names.reverse ++ here, e), (lookAt_eq_some_iff hplace).mp hlook, ?_⟩
    rw [if_pos hcond, List.length_append, Nat.add_sub_cancel, List.take_left, List.reverse_reverse]

/-- A listing names every file once. -/
theorem nodup_below (d : Disk) (here : Place) : (d.below here).Nodup := by
  refine (List.Nodup.of_map Prod.fst d.nodup).filterMap ?_
  intro x x' y hx hx'
  rw [(eq_of_below hx).2, (eq_of_below hx').2]

/-- The files below a directory are those at the places that names lead to from there. -/
theorem mem_filesBelow (h : d.locate dir = .ok dir.place) :
    (p, content) ∈ d.filesBelow dir ↔
      ∃ names, names ≠ [] ∧ p = ⟨dir.anchor, dir.segments ++ names⟩ ∧
        d.lookAt (names.reverse ++ dir.place) = some (.file content) := by
  rw [filesBelow, h]
  dsimp only
  rw [List.mem_filterMap]
  constructor
  · rintro ⟨⟨names, e⟩, hmem, he⟩
    cases e with
    | directory => cases he
    | file content' =>
      cases he
      obtain ⟨hne, hlook⟩ := mem_below.mp hmem
      exact ⟨names, hne, rfl, hlook⟩
  · rintro ⟨names, hne, rfl, hlook⟩
    exact ⟨(names, .file content), mem_below.mpr ⟨hne, hlook⟩, rfl⟩

/-- No file is listed twice. -/
theorem nodup_filesBelow (d : Disk) (dir : Path) : (d.filesBelow dir).Nodup := by
  rw [filesBelow]
  split
  · exact List.nodup_nil
  · next here hloc =>
    refine (d.nodup_below here).filterMap ?_
    rintro ⟨names, _ | content⟩ ⟨names', _ | content'⟩ f hf hf'
    · cases hf
    · cases hf
    · cases hf'
    · cases hf
      simp only [Option.mem_def, Option.some.injEq, Prod.mk.injEq, Path.mk.injEq,
        List.append_cancel_left_eq, true_and] at hf'
      rw [hf'.1, hf'.2]

/-- The order of a disk decides on that of a listing only. -/
theorem filesBelow_of_perm {d' : Disk} (h : d.entries.Perm d'.entries) (dir : Path) :
    (d.filesBelow dir).Perm (d'.filesBelow dir) := by
  rw [filesBelow, filesBelow, locate_congr (lookAt_of_perm h)]
  split
  · exact .refl _
  · exact (h.filterMap _).filterMap _

/-- A directory with files below it is at the place that its path spells. -/
theorem locate_of_mem_filesBelow {f : Path × ByteArray} (h : f ∈ d.filesBelow dir) :
    d.locate dir = .ok dir.place := by
  cases hloc : d.locate dir with
  | error problem =>
    rw [filesBelow, hloc] at h
    cases h
  | ok here => rw [(locate_eq_ok.mp hloc).1]

/-- A listed file is fixed by the segments of its path. -/
theorem eq_of_segments_eq {f g : Path × ByteArray} (hf : f ∈ d.filesBelow dir)
    (hg : g ∈ d.filesBelow dir) (h : f.1.segments = g.1.segments) : f = g := by
  have hloc := locate_of_mem_filesBelow hf
  obtain ⟨p, content⟩ := f
  obtain ⟨p', content'⟩ := g
  obtain ⟨names, -, rfl, hlook⟩ := (mem_filesBelow hloc).mp hf
  obtain ⟨names', -, rfl, hlook'⟩ := (mem_filesBelow hloc).mp hg
  obtain rfl := List.append_cancel_left h
  rw [hlook] at hlook'
  cases hlook'
  rfl

/-- Names of what is at a place lead there. -/
theorem place_of_lookAt {names : List Segment} {e : Entry}
    (h : d.lookAt (names.reverse ++ dir.place) = some e) :
    Path.place ⟨dir.anchor, dir.segments ++ names⟩ = names.reverse ++ dir.place := by
  have hup : .up ∉ names := fun hmem => up_not_mem_of_lookAt h (by simp [hmem])
  rw [Path.place, Place.walk_append, Place.walk_of_not_mem_up hup]
  rfl

/-- A listed file is at the place that its path spells. -/
theorem lookAt_of_mem_filesBelow (h : (p, content) ∈ d.filesBelow dir) :
    d.lookAt p.place = some (.file content) := by
  obtain ⟨names, -, rfl, hlook⟩ := (mem_filesBelow (locate_of_mem_filesBelow h)).mp h
  rwa [place_of_lookAt hlook]

/-- A listed file is fixed by its place. -/
theorem eq_of_place_eq {f g : Path × ByteArray} (hf : f ∈ d.filesBelow dir)
    (hg : g ∈ d.filesBelow dir) (h : f.1.place = g.1.place) : f = g := by
  obtain ⟨p, content⟩ := f
  obtain ⟨p', content'⟩ := g
  obtain ⟨names, -, rfl, hlook⟩ := (mem_filesBelow (locate_of_mem_filesBelow hf)).mp hf
  obtain ⟨names', -, rfl, hlook'⟩ := (mem_filesBelow (locate_of_mem_filesBelow hg)).mp hg
  dsimp only at h
  rw [place_of_lookAt hlook, place_of_lookAt hlook', List.append_cancel_right_eq,
    List.reverse_inj] at h
  subst h
  exact eq_of_segments_eq hf hg rfl

/-- The name of a listed file is the first one of its place. -/
theorem name_of_mem_filesBelow {f : Path × ByteArray} (h : f ∈ d.filesBelow dir) :
    f.1.name = (f.1.place.head?.map Segment.text).getD "" := by
  obtain ⟨p, content⟩ := f
  obtain ⟨names, hne, rfl, hlook⟩ := (mem_filesBelow (locate_of_mem_filesBelow h)).mp h
  rw [place_of_lookAt hlook, Path.name, List.getLast?_append_of_ne_nil _ hne,
    List.head?_append_of_ne_nil _ (by simpa using hne), List.head?_reverse]

/-- Whether files can be put on a disk one after the other. -/
def takes : Disk → List (Path × ByteArray) → Bool
  | _, [] => true
  | d, f :: files =>
    let (made, dirs) := d.makeDirs f.1.parent
    made.isOk && (dirs.write f.1 f.2).isOk && takes (d.put f.1 f.2) files

private theorem frame_put {made : Except Failure Unit} {dirs written : Disk}
    (hmade : d.makeDirs p.parent = (made, dirs)) (hok : made = .ok ())
    (hwrite : dirs.write p content = .ok written) :
    (d.put p content).lookAt p.place = some (.file content) ∧
      ∀ q content', q ≠ p.place → d.lookAt q = some (.file content') →
        (d.put p content).lookAt q = some (.file content') := by
  subst hok
  have hput : d.put p content = written := by
    rw [put, hmade]
    dsimp only
    rw [hwrite]
  have hdirs := d.frame_makeDirs p.parent
  rw [hmade] at hdirs
  rw [hput]
  refine ⟨(locate_write hwrite).2.2.1, fun q content' hne hq => ?_⟩
  exact (frame_write hwrite).file_stays q content' hne (hdirs.file_stays q content' id hq)

private theorem lookAt_foldl_put (h : d.takes files = true)
    (hplaces : (files.map fun f => f.1.place).Nodup) :
    (∀ f ∈ files, (files.foldl (fun d f => d.put f.1 f.2) d).lookAt f.1.place =
        some (.file f.2)) ∧
      ∀ q content, q ∉ files.map (fun f => f.1.place) → d.lookAt q = some (.file content) →
        (files.foldl (fun d f => d.put f.1 f.2) d).lookAt q = some (.file content) := by
  induction files generalizing d with
  | nil => exact ⟨nofun, fun _ _ _ hq => hq⟩
  | cons f files ih =>
    rw [takes] at h
    rcases hmade : d.makeDirs f.1.parent with ⟨made, dirs⟩
    simp only [hmade, Bool.and_eq_true] at h
    obtain ⟨⟨hok, hwritten⟩, htakes⟩ := h
    obtain ⟨written, hwrite⟩ : ∃ written, dirs.write f.1 f.2 = .ok written := by
      cases hw : dirs.write f.1 f.2 with
      | error e => rw [hw] at hwritten; cases hwritten
      | ok written => exact ⟨written, rfl⟩
    have hmade' : made = .ok () := by
      cases made with
      | error e => cases hok
      | ok u => rfl
    obtain ⟨hnew, hold⟩ := frame_put hmade hmade' hwrite
    rw [List.map_cons, List.nodup_cons] at hplaces
    obtain ⟨hfiles, hstays⟩ := ih htakes hplaces.2
    refine ⟨fun f' hf' => ?_, fun q content hq hlook => ?_⟩
    · rcases List.mem_cons.mp hf' with rfl | hf'
      · exact hstays _ _ hplaces.1 hnew
      · exact hfiles f' hf'
    · rw [List.map_cons, List.mem_cons, not_or] at hq
      exact hstays q content hq.2 (hold q content hq.1 hlook)

private theorem eq_of_map_fst_eq {files' : List (Path × ByteArray)}
    (hpaths : files.map Prod.fst = files'.map Prod.fst)
    (h : ∀ f ∈ files, d.lookAt f.1.place = some (.file f.2))
    (h' : ∀ f ∈ files', d.lookAt f.1.place = some (.file f.2)) : files = files' := by
  induction files generalizing files' with
  | nil => exact (List.map_eq_nil_iff.mp hpaths.symm).symm
  | cons f files ih =>
    cases files' with
    | nil => cases hpaths
    | cons f' files' =>
      obtain ⟨hpath, hrest⟩ := List.cons.inj hpaths
      have hcontent : f.2 = f'.2 := by
        have hf := h f List.mem_cons_self
        rw [hpath, h' f' List.mem_cons_self] at hf
        exact (Entry.file.inj (Option.some.inj hf)).symm
      rw [ih hrest (fun x hx => h x (List.mem_cons_of_mem _ hx))
        fun x hx => h' x (List.mem_cons_of_mem _ hx), Prod.ext hpath hcontent]

/-- A disk made from files lists them, if it takes all of them and lists their paths. -/
theorem filesBelow_ofFiles (h : empty.takes files = true)
    (hplaces : (files.map fun f => f.1.place).Nodup)
    (hpaths : ((ofFiles files).filesBelow dir).map Prod.fst = files.map Prod.fst) :
    (ofFiles files).filesBelow dir = files := by
  exact eq_of_map_fst_eq hpaths (fun f hf => lookAt_of_mem_filesBelow hf)
    (lookAt_foldl_put h hplaces).1

end TestSkeleton.Disk
