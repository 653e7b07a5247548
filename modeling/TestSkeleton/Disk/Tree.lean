import TestSkeleton.Path

/-!
# Directory trees

What a disk holds: directories and files, each at a place below the root. The entries have an order,
in which a directory is listed; nothing else depends on it. Three facts are part of the type: a
place has one entry, what holds an entry is a directory, and no entry has the name of the step
upwards.
-/

namespace TestSkeleton

/-- Where something is on a disk: the names from the innermost outwards. The root has none. -/
abbrev Place := List Segment

/-- What is at a place. -/
inductive Entry where
  | directory
  | file (content : ByteArray)
deriving Inhabited

/-- Whether an entry is a file. -/
def Entry.isFile : Entry → Bool
  | directory => false
  | file _ => true

/-- A directory tree. The root is a directory that is not listed. -/
structure Disk where
  entries : List (Place × Entry)
  nodup : (entries.map Prod.fst).Nodup
  rooted : ∀ e ∈ entries, e.1 ≠ []
  closed : ∀ e ∈ entries, e.1.tail = [] ∨ (e.1.tail, Entry.directory) ∈ entries
  named : ∀ e ∈ entries, .up ∉ e.1

namespace Disk

/-- The disk with nothing on it. -/
def empty : Disk := ⟨[], .nil, nofun, nofun, nofun⟩

instance : Inhabited Disk := ⟨empty⟩

/-- What is at a place. -/
def lookAt (d : Disk) (p : Place) : Option Entry :=
  if p = [] then some .directory else d.entries.lookup p

/-- At the root there is a directory. -/
@[simp] theorem lookAt_nil (d : Disk) : d.lookAt [] = some .directory := by simp [lookAt]

private theorem mem_of_lookup {p : Place} {e : Entry} {es : List (Place × Entry)}
    (h : es.lookup p = some e) : (p, e) ∈ es := by
  obtain ⟨l₁, l₂, rfl, -⟩ := List.lookup_eq_some_iff.mp h
  simp

private theorem not_mem_of_lookup {p : Place} {es : List (Place × Entry)}
    (h : es.lookup p = none) (e : Entry) : (p, e) ∉ es := by
  intro hm
  have := List.lookup_eq_none_iff.mp h _ hm
  simp at this

/-- What is seen at a place below the root is an entry. -/
theorem mem_of_lookAt {d : Disk} {p : Place} {e : Entry} (hp : p ≠ [])
    (h : d.lookAt p = some e) : (p, e) ∈ d.entries := by
  rw [lookAt, if_neg hp] at h
  exact mem_of_lookup h

/-- Where nothing is seen there is no entry. -/
theorem not_mem_of_lookAt {d : Disk} {p : Place} (h : d.lookAt p = none) (e : Entry) :
    (p, e) ∉ d.entries := by
  by_cases hp : p = []
  · subst hp; simp at h
  · rw [lookAt, if_neg hp] at h
    exact not_mem_of_lookup h e

/-- The disk with one more entry, in a directory that has none of that name. -/
def insert (d : Disk) (s : Segment) (p : Place) (e : Entry)
    (hp : d.lookAt p = some .directory) (hs : d.lookAt (s :: p) = none) (hup : s ≠ .up) :
    Disk where
  entries := d.entries ++ [(s :: p, e)]
  nodup := by
    rw [List.map_append, List.map_singleton]
    refine List.nodup_append.mpr ⟨d.nodup, by simp, ?_⟩
    intro a ha b hb
    obtain ⟨x, hx, rfl⟩ := List.mem_map.mp ha
    rw [List.mem_singleton] at hb
    subst hb
    intro hEq
    refine not_mem_of_lookAt hs x.2 ?_
    rw [← show x.1 = s :: p from hEq]
    exact hx
  rooted := by
    intro x hx
    rcases List.mem_append.mp hx with h | h
    · exact d.rooted x h
    · simp only [List.mem_singleton] at h; subst h; simp
  closed := by
    intro x hx
    rcases List.mem_append.mp hx with h | h
    · exact (d.closed x h).imp id (List.mem_append_left _)
    · simp only [List.mem_singleton] at h; subst h
      by_cases hn : p = []
      · exact .inl hn
      · exact .inr (List.mem_append_left _ (mem_of_lookAt hn hp))
  named := by
    intro x hx
    rcases List.mem_append.mp hx with h | h
    · exact d.named x h
    · simp only [List.mem_singleton] at h; subst h
      by_cases hn : p = []
      · simp [hn, hup.symm]
      · simpa [hup.symm] using d.named _ (mem_of_lookAt hn hp)

private def replace (p : Place) (content : ByteArray) (x : Place × Entry) : Place × Entry :=
  (x.1, if x.1 = p ∧ x.2.isFile then .file content else x.2)

/-- The disk with new content for a file. Where there is no file, nothing changes. -/
def setContent (d : Disk) (p : Place) (content : ByteArray) : Disk where
  entries := d.entries.map (replace p content)
  nodup := by
    have : Prod.fst ∘ replace p content = Prod.fst := rfl
    rw [List.map_map, this]
    exact d.nodup
  rooted := by
    intro x hx
    obtain ⟨y, hy, rfl⟩ := List.mem_map.mp hx
    exact d.rooted y hy
  closed := by
    intro x hx
    obtain ⟨y, hy, rfl⟩ := List.mem_map.mp hx
    refine (d.closed y hy).imp id fun h => List.mem_map.mpr ⟨_, h, ?_⟩
    simp [replace, Entry.isFile]
  named := by
    intro x hx
    obtain ⟨y, hy, rfl⟩ := List.mem_map.mp hx
    exact d.named y hy

/-- The disk without the file at a place. Where there is no file, nothing changes. -/
def eraseFile (d : Disk) (p : Place) : Disk where
  entries := d.entries.filter fun x => !(decide (x.1 = p) && x.2.isFile)
  nodup := d.nodup.sublist (List.filter_sublist.map _)
  rooted := fun x hx => d.rooted x (List.mem_filter.mp hx).1
  closed := by
    intro x hx
    refine (d.closed x (List.mem_filter.mp hx).1).imp id fun h => List.mem_filter.mpr ⟨h, ?_⟩
    simp [Entry.isFile]
  named := fun x hx => d.named x (List.mem_filter.mp hx).1

/-! ### What is at a place afterwards -/

/-- A new entry is at its place, and nothing else moves. -/
theorem lookAt_insert (d : Disk) (s : Segment) (p q : Place) (e : Entry)
    (hp : d.lookAt p = some .directory) (hs : d.lookAt (s :: p) = none) (hup : s ≠ .up) :
    (d.insert s p e hp hs hup).lookAt q = if q = s :: p then some e else d.lookAt q := by
  by_cases hq : q = []
  · subst hq; simp
  · rw [lookAt, if_neg hq, insert, List.lookup_append]
    by_cases h : q = s :: p
    · have hn : d.entries.lookup q = none := by rwa [← h, lookAt, if_neg hq] at hs
      simp [h ▸ hn, h]
    · have hb : (q == s :: p) = false := beq_eq_false_iff_ne.mpr h
      simp [List.lookup_cons, hb, h, lookAt, hq]

private theorem lookup_filter_of_ne {p q : Place} (h : q ≠ p) (es : List (Place × Entry)) :
    (es.filter fun x => !(decide (x.1 = p) && x.2.isFile)).lookup q = es.lookup q := by
  induction es with
  | nil => rfl
  | cons x xs ih =>
    cases hx : decide (x.1 = p) && x.2.isFile with
    | true =>
      have hp : x.1 = p := of_decide_eq_true (Bool.and_eq_true_iff.mp hx).1
      have hb : (q == x.1) = false := beq_eq_false_iff_ne.mpr (hp ▸ h)
      rw [List.filter_cons_of_neg (by simp [hx]), List.lookup_cons, hb, ih]
    | false =>
      rw [List.filter_cons_of_pos (by simp [hx]), List.lookup_cons, List.lookup_cons, ih]

private theorem lookup_map_of_ne {p q : Place} (h : q ≠ p) (content : ByteArray)
    (es : List (Place × Entry)) : (es.map (replace p content)).lookup q = es.lookup q := by
  induction es with
  | nil => rfl
  | cons x xs ih =>
    rw [List.map_cons, List.lookup_cons, List.lookup_cons, ih]
    by_cases hx : q = x.1
    · simp [replace, ← hx, h]
    · have hb : (q == x.1) = false := beq_eq_false_iff_ne.mpr hx
      simp [replace, hb]

/-- Erasing a file changes no other place. -/
theorem lookAt_eraseFile_of_ne (d : Disk) {p q : Place} (h : q ≠ p) :
    (d.eraseFile p).lookAt q = d.lookAt q := by
  simp only [lookAt, eraseFile, lookup_filter_of_ne h]

/-- New content changes no other place. -/
theorem lookAt_setContent_of_ne (d : Disk) {p q : Place} (h : q ≠ p) (content : ByteArray) :
    (d.setContent p content).lookAt q = d.lookAt q := by
  simp only [lookAt, setContent, lookup_map_of_ne h]

/-- The places below a directory with what is there, as the names that lead from the directory to
them. -/
def below (d : Disk) (p : Place) : List (List Segment × Entry) :=
  d.entries.filterMap fun x =>
    if p.isSuffixOf x.1 && x.1 != p then
      some ((x.1.take (x.1.length - p.length)).reverse, x.2)
    else none

end Disk
end TestSkeleton
