import TestSkeleton.Message.Catalog
import TestSkeleton.Proofs.Disk.Listed
import TestSkeleton.Proofs.Json.Objects
import TestSkeleton.Proofs.Text.Order
import TestSkeleton.Proofs.Text.Segments

/-!
# Sources of templates

The template files of a language, each with what decides on its place among the others: the root,
the directory of the root, the directory of the file and its name. A file is read, left out or
cannot be read, by what it holds. The files of a directory that can be opened are read in the order
of their places.
-/

namespace TestSkeleton

/-- A template file in one of the two directories that a root has for a language. -/
structure Source where
  root : Nat
  override : Bool
  path : Path
  content : ByteArray

/-- A source wins over another one by its root, then as an override, then by the text of its
directory and last by its name. -/
inductive Source.Outranks (s t : Source) : Prop
  | root (h : t.root < s.root)
  | override (hroot : t.root = s.root) (ht : t.override = false) (hs : s.override = true)
  | directory (hroot : t.root = s.root) (hoverride : t.override = s.override)
      (h : t.path.parent.text < s.path.parent.text)
  | name (hroot : t.root = s.root) (hoverride : t.override = s.override)
      (hdirectory : t.path.parent.text = s.path.parent.text) (h : t.path.name < s.path.name)

/-- The directory of a root with its templates for a language, or with its overrides. -/
def Root.languageDir (path : Path) (language : String) (override : Bool) : Path :=
  if override then ((path.joinText ".stubwright").joinText "needle").joinText language
  else (path.joinText "needle").joinText language

/-- A template file at any depth below a directory that can be opened. The suffix may be in any case
of letters. -/
structure IsTemplateBelow (disk : Disk) (dir : Path) (f : Path × ByteArray) : Prop where
  directory : disk.isDirectory dir = .ok true
  file : ∃ names : List Segment, names ≠ [] ∧ f.1 = ⟨dir.anchor, dir.segments ++ names⟩ ∧
    disk.lookAt (names.reverse ++ dir.place) = some (.file f.2)
  suffix : f.1.suffix.toLower = ".json"
  opened : disk.read f.1 = .ok f.2

/-- The sources that roots have for a language. -/
def IsSource (disk : Disk) (roots : List Root) (language : String) (s : Source) : Prop :=
  ∃ root, roots[s.root]? = some root ∧ IsTemplateBelow (root.place disk).1
    (Root.languageDir (root.place disk).2 language s.override) (s.path, s.content)

/-- A file holds a JSON object with entries. -/
def HoldsObject (content : ByteArray) (entries : List (Value × Value)) : Prop :=
  ∃ json document, String.fromUTF8? content = some json ∧ Json.read json = .ok document ∧
    document.entries? = some entries

/-- A file binds a key to the text of the value that its object has under the key. -/
def Binds (content : ByteArray) (key text : String) : Prop :=
  ∃ entries v, HoldsObject content entries ∧ Value.get? entries key = some v ∧ v.shown = .ok text

/-- What in a file is no reason to leave it out: a value that JSON texts cannot have, or a value of
the object that has no text. -/
inductive ContentFault (content : ByteArray) : Fault → Prop
  | document {json : String} {f : Fault} (hjson : String.fromUTF8? content = some json)
      (hread : Json.read json = .error (.fault f)) : ContentFault content f
  | value {entries : List (Value × Value)} {f : Fault} (hobject : HoldsObject content entries)
      (hvalue : Outcome.FirstWith (fun e => e.2.shown) (fun e => e.2.shown = .error f) entries) :
      ContentFault content f

/-! ### Templates of a file -/

namespace Templates

variable {content : ByteArray} {key text : String} {ts : Templates} {f : Fault}
  {entries : List (Value × Value)}

private def ofEntry (e : Value × Value) : Except Fault (String × String) :=
  do return (← e.1.shown, ← e.2.shown)

private theorem ofEntry_text (k : String) (v : Value) :
    ofEntry (.text k, v) = v.shown.map fun text => (k, text) := by
  change (v.shown >>= fun text => Except.ok (k, text)) = _
  cases v.shown <;> rfl

private theorem mapM_ofEntry_eq_error (hkeys : Json.TextKeys entries) :
    entries.mapM ofEntry = .error f ↔
      Outcome.FirstWith (fun e => e.2.shown) (fun e => e.2.shown = .error f) entries := by
  have hentry : ∀ e ∈ entries, ((∃ t, ofEntry e = .ok t) ↔ ∃ text, e.2.shown = .ok text) ∧
      (ofEntry e = .error f ↔ e.2.shown = .error f) := by
    rintro ⟨k, v⟩ he
    obtain ⟨k, rfl⟩ : ∃ key, k = .text key := hkeys _ he
    rw [ofEntry_text]
    cases v.shown <;> simp [Except.map]
  rw [Outcome.mapM_eq_error]
  constructor
  · rintro ⟨before, e, after, rfl, hbefore, he⟩
    refine ⟨before, e, after, rfl, fun e' he' => ?_, (hentry e (by simp)).2.mp he⟩
    exact (hentry e' (List.mem_append_left _ he')).1.mp (hbefore e' he')
  · rintro ⟨before, e, after, rfl, hbefore, he⟩
    refine ⟨before, e, after, rfl, fun e' he' => ?_, (hentry e (by simp)).2.mpr he⟩
    exact (hentry e' (List.mem_append_left _ he')).1.mpr (hbefore e' he')

private theorem lookup_mapM_ofEntry (hkeys : Json.TextKeys entries)
    (h : entries.mapM ofEntry = .ok ts) :
    ts.lookup key = some text ↔ ∃ v, Value.get? entries key = some v ∧ v.shown = .ok text := by
  induction entries generalizing ts with
  | nil =>
    cases h
    simp [Value.get?]
  | cons e es ih =>
    obtain ⟨t, ts, ht, hts, rfl⟩ := Outcome.mapM_cons_eq_ok.mp h
    obtain ⟨k, v⟩ := e
    obtain ⟨k, rfl⟩ : ∃ key, k = .text key := hkeys _ List.mem_cons_self
    rw [ofEntry_text, Outcome.map_eq_ok] at ht
    obtain ⟨shown, hshown, rfl⟩ := ht
    by_cases hk : key = k
    · subst hk
      simp [Value.get?, hshown]
    · have hne : (key == k) = false := beq_eq_false_iff_ne.mpr hk
      have hget : Value.get? ((.text k, v) :: es) key = Value.get? es key := by
        simp [Value.get?, Ne.symm hk]
      rw [List.lookup_cons, hne, hget]
      exact ih (fun e he => hkeys e (List.mem_cons_of_mem _ he)) hts

private theorem ofContent_of_holdsObject (h : HoldsObject content entries) :
    ofContent content = entries.mapM ofEntry ∧ Json.TextKeys entries := by
  obtain ⟨json, document, hjson, hread, hentries⟩ := h
  refine ⟨?_, Json.read_textKeys hread hentries⟩
  simp only [ofContent, hjson, Option.map_some, hread, hentries]
  rfl

private theorem holdsObject_or_of_ok (h : ofContent content = .ok ts) :
    (∃ entries, HoldsObject content entries) ∨ ts = [] := by
  rw [ofContent] at h
  split at h
  · cases h
    exact .inr rfl
  · cases h
    exact .inr rfl
  · cases h
  · next document hdocument =>
    obtain ⟨json, hjson, hread⟩ := Option.map_eq_some_iff.mp hdocument
    split at h
    · next entries hentries => exact .inl ⟨entries, json, document, hjson, hread, hentries⟩
    · cases h
      exact .inr rfl

/-- A file cannot be read exactly if it has a fault. -/
theorem ofContent_eq_error : ofContent content = .error f ↔ ContentFault content f := by
  constructor
  · intro h
    have hcontent := h
    rw [ofContent] at h
    split at h
    · cases h
    · cases h
    · next hdocument =>
      obtain ⟨json, hjson, hread⟩ := Option.map_eq_some_iff.mp hdocument
      cases h
      exact .document hjson hread
    · next document hdocument =>
      obtain ⟨json, hjson, hread⟩ := Option.map_eq_some_iff.mp hdocument
      split at h
      · next entries hentries =>
        have hobject : HoldsObject content entries := ⟨json, document, hjson, hread, hentries⟩
        obtain ⟨heq, hkeys⟩ := ofContent_of_holdsObject hobject
        exact .value hobject ((mapM_ofEntry_eq_error hkeys).mp (heq ▸ hcontent))
      · cases h
  · intro h
    cases h with
    | document hjson hread => simp only [ofContent, hjson, Option.map_some, hread]
    | value hobject hvalue =>
      obtain ⟨heq, hkeys⟩ := ofContent_of_holdsObject hobject
      rw [heq, mapM_ofEntry_eq_error hkeys]
      exact hvalue

/-- A file can be read exactly if it has no fault. -/
theorem exists_ofContent_eq_ok :
    (∃ ts, ofContent content = .ok ts) ↔ ∀ f, ¬ ContentFault content f := by
  simp only [← ofContent_eq_error]
  cases ofContent content <;> simp

/-- The template of a key is the text that the file binds it to. -/
theorem lookup_ofContent (hts : ofContent content = .ok ts) :
    ts.lookup key = some text ↔ Binds content key text := by
  have hlookup {entries} (hobject : HoldsObject content entries) : ts.lookup key = some text ↔
      ∃ v, Value.get? entries key = some v ∧ v.shown = .ok text := by
    obtain ⟨heq, hkeys⟩ := ofContent_of_holdsObject hobject
    exact lookup_mapM_ofEntry hkeys (heq ▸ hts)
  constructor
  · intro h
    rcases holdsObject_or_of_ok hts with ⟨entries, hobject⟩ | rfl
    · obtain ⟨v, hv, htext⟩ := (hlookup hobject).mp h
      exact ⟨entries, v, hobject, hv, htext⟩
    · cases h
  · rintro ⟨entries, v, hobject, hv, htext⟩
    exact (hlookup hobject).mpr ⟨v, hv, htext⟩

/-! ### Files of a directory -/

variable {disk : Disk} {dir : Path} {g : Path × ByteArray}

/-- Templates without newer ones. -/
@[simp] theorem merge_nil (older : Templates) : merge older [] = older := by simp [merge]

/-- Items that have no templates may be dropped, and those that are kept be read in another way with
the same templates. -/
theorem merged_filter {α : Type} {g g' : α → Except Fault Templates} {keep : α → Bool} {xs : List α}
    (hkeep : ∀ x ∈ xs, keep x = true → g x = g' x)
    (hdrop : ∀ x ∈ xs, keep x = false → g x = .ok []) (merged : Templates) :
    (xs.mapM g).map (fun parts => parts.foldl merge merged) =
      ((xs.filter keep).mapM g').map fun parts => parts.foldl merge merged := by
  have hcons {f : α → Except Fault Templates} {y : α} {ys : List α} {ts merged : Templates}
      (hy : f y = .ok ts) : ((y :: ys).mapM f).map (fun parts => parts.foldl merge merged) =
        (ys.mapM f).map fun parts => parts.foldl merge (merge merged ts) := by
    rw [List.mapM_cons, hy]
    cases hys : ys.mapM f <;> rfl
  induction xs generalizing merged with
  | nil => rfl
  | cons x xs ih =>
    have hrest := ih (fun y hy => hkeep y (List.mem_cons_of_mem x hy))
      fun y hy => hdrop y (List.mem_cons_of_mem x hy)
    cases hx : keep x with
    | true =>
      have hsame := hkeep x List.mem_cons_self hx
      rw [List.filter_cons_of_pos hx]
      cases hts : g x with
      | error f =>
        rw [List.mapM_cons, List.mapM_cons, ← hsame, hts]
        rfl
      | ok ts => rw [hcons hts, hcons (hsame ▸ hts), hrest]
    | false =>
      rw [List.filter_cons_of_neg (by simp [hx]), hcons (hdrop x List.mem_cons_self hx), merge_nil,
        hrest]

/-- A file that can be opened has the templates of its content. -/
theorem ofFile_of_read {path : Path} (h : disk.read path = .ok content) :
    ofFile disk path = ofContent content := by
  rw [ofFile, h]

/-- A file that cannot be read gives no templates. -/
theorem ofFile_of_error {path : Path} {e : Failure} (h : disk.read path = .error e) :
    ofFile disk path = .ok [] := by
  rw [ofFile, h]

/-- The template files of a directory that can be opened, in the order in which they are read. -/
def listed (disk : Disk) (dir : Path) : List (Path × ByteArray) :=
  match disk.isDirectory dir with
  | .ok true => ((disk.filesBelow dir).mergeSort fun a b => readBefore a.1 b.1).filter fun f =>
      (disk.read f.1).isOk && isTemplateFile f.1
  | _ => []

/-- The template files of a directory are those below it that can be read, in their
order. -/
theorem listed_of_isDirectory (h : disk.isDirectory dir = .ok true) : listed disk dir =
    ((disk.filesBelow dir).mergeSort fun a b => readBefore a.1 b.1).filter fun f =>
      (disk.read f.1).isOk && isTemplateFile f.1 := by
  rw [listed, h]

/-- Where there is no directory no file is listed. -/
theorem listed_of_not_isDirectory (h : disk.isDirectory dir ≠ .ok true) : listed disk dir = [] := by
  rw [listed]
  split
  · next hdir => exact absurd hdir h
  · rfl

/-- Results can be mapped before or after a fault is reported. -/
theorem map_ofFault {α β : Type} (x : Except Fault α) (h : α → β) :
    (Failure.ofFault x).map h = Failure.ofFault (x.map h) := by
  cases x <;> rfl

private theorem isOk_read_iff (hg : g ∈ disk.filesBelow dir) :
    (disk.read g.1).isOk = true ↔ disk.read g.1 = .ok g.2 := by
  cases hread : disk.read g.1 with
  | error e => simp [Except.isOk, Except.toBool]
  | ok content => simp [Except.isOk, Except.toBool, Disk.eq_of_read hg hread]

/-- The templates of a directory are those of its files, of which the later ones win. -/
theorem ofDirectory_eq (disk : Disk) (dir : Path) :
    ofDirectory disk dir = disk.isDirectory dir >>= fun _ =>
      (Failure.ofFault ((listed disk dir).mapM fun f => ofContent f.2)).map
        fun parts => parts.foldl merge [] := by
  cases hdir : disk.isDirectory dir with
  | error e =>
    rw [ofDirectory, hdir]
    rfl
  | ok there =>
    cases there with
    | false =>
      rw [ofDirectory, listed, hdir]
      rfl
    | true =>
      rw [ofDirectory, hdir, listed_of_isDirectory hdir, ← List.filter_filter]
      refine (Outcome.bind_ok_eq_map _ _).trans ?_
      rw [map_ofFault]
      refine (congrArg Failure.ofFault (merged_filter (fun f hf hopened => ?_) (fun f hf hclosed => ?_)
        [])).trans (map_ofFault _ _).symm
      · have hfile : f ∈ disk.filesBelow dir := List.mem_mergeSort.mp (List.mem_filter.mp hf).1
        exact ofFile_of_read ((isOk_read_iff hfile).mp hopened)
      · cases hread : disk.read f.1 with
        | error e => exact ofFile_of_error hread
        | ok content =>
          rw [hread] at hclosed
          cases hclosed

/-- The listed files are the template files below the directory. -/
theorem mem_listed {file : Path × ByteArray} :
    file ∈ listed disk dir ↔ IsTemplateBelow disk dir file := by
  have hsuffix : isTemplateFile file.1 = true ↔ file.1.suffix.toLower = ".json" := by
    rw [isTemplateFile, beq_iff_eq]
    exact Text.lower_eq_iff_toLower (by decide)
  by_cases hdir : disk.isDirectory dir = .ok true
  · have hloc := Disk.locate_of_isDirectory hdir
    rw [listed_of_isDirectory hdir, List.mem_filter, List.mem_mergeSort, Bool.and_eq_true, hsuffix]
    constructor
    · rintro ⟨hfile, hopened, hsuffix⟩
      exact ⟨hdir, (Disk.mem_filesBelow hloc).mp hfile, hsuffix, (isOk_read_iff hfile).mp hopened⟩
    · rintro ⟨-, hfile, hsuffix, hopened⟩
      have hmem := (Disk.mem_filesBelow hloc).mpr hfile
      exact ⟨hmem, (isOk_read_iff hmem).mpr hopened, hsuffix⟩
  · rw [listed_of_not_isDirectory hdir]
    exact ⟨nofun, fun h => absurd h.directory hdir⟩

private theorem eq_of_texts_eq {f g : Path × ByteArray} (hf : f ∈ disk.filesBelow dir)
    (hg : g ∈ disk.filesBelow dir)
    (h : [f.1.parent.text, f.1.name] = [g.1.parent.text, g.1.name]) : f = g := by
  have hne {f} (hf : f ∈ disk.filesBelow dir) : f.1.segments ≠ [] := by
    obtain ⟨names, hnames, hpath, -⟩ :=
      (Disk.mem_filesBelow (Disk.locate_of_mem_filesBelow hf)).mp hf
    simp [hpath, hnames]
  obtain ⟨hparent, hname⟩ : f.1.parent.text = g.1.parent.text ∧ f.1.name = g.1.name := by
    simpa using h
  apply Disk.eq_of_segments_eq hf hg
  exact Path.segments_eq_of_parent_of_name (hne hf) (hne hg) (Path.segments_eq_of_text_eq hparent)
    hname

/-- The order of a disk does not matter to the templates of a directory. -/
theorem ofDirectory_of_perm {disk' : Disk} (h : disk.entries.Perm disk'.entries) (dir : Path) :
    ofDirectory disk dir = ofDirectory disk' dir := by
  have hdir : disk.isDirectory dir = disk'.isDirectory dir := by
    rw [Disk.isDirectory, Disk.isDirectory, Disk.find?_congr (Disk.lookAt_of_perm h)]
  have hsort := Text.mergeSort_eq_of_perm (Disk.filesBelow_of_perm h dir)
    fun f hf g hg => eq_of_texts_eq hf hg
  have hlisted : listed disk dir = listed disk' dir := by
    rw [listed, listed, hdir]
    simp only [Disk.read_congr (Disk.lookAt_of_perm h)]
    split
    · exact congrArg (List.filter _) hsort
    · rfl
  rw [ofDirectory_eq, ofDirectory_eq, hdir, hlisted]

/-- When a file is erased, all others are still listed, in the same order. -/
theorem listed_eraseFile (disk : Disk) (q : Place) (dir : Path) :
    listed (disk.eraseFile q) dir =
      (listed disk dir).filter fun f => decide (f.1.place ≠ q) := by
  have hsame := Disk.isDirectory_eraseFile disk q dir
  by_cases hdir : disk.isDirectory dir = .ok true
  · have hsort := Text.filter_mergeSort (fun f => decide (f.1.place ≠ q))
      fun f (hf : f ∈ disk.filesBelow dir) g hg => eq_of_texts_eq hf hg
    rw [listed_of_isDirectory hdir, listed_of_isDirectory (hsame.trans hdir),
      Disk.filesBelow_eraseFile]
    refine (congrArg (List.filter _) hsort.symm).trans ?_
    rw [List.filter_filter, List.filter_filter]
    refine List.filter_congr fun f _ => ?_
    by_cases hplace : f.1.place = q
    · simp [hplace]
    · simp [hplace, Disk.isOk_read_eraseFile hplace]
  · rw [listed_of_not_isDirectory hdir, listed_of_not_isDirectory (hsame ▸ hdir), List.filter_nil]

/-- The listed files are in order, each of them once. -/
theorem pairwise_listed (disk : Disk) (dir : Path) : (listed disk dir).Pairwise fun f g =>
    [f.1.parent.text, f.1.name] < [g.1.parent.text, g.1.name] := by
  rw [listed]
  split
  · exact (Text.pairwise_lt_mergeSort (disk.nodup_filesBelow dir)
      fun f hf g hg => eq_of_texts_eq hf hg).filter _
  · exact .nil

end Templates

end TestSkeleton
