import TestSkeleton.Proofs.Message.Sources

/-!
# Merged tables

The table of a language is merged from tables of files, directories and roots. A lookup in it finds
the text of the highest of the sources that bind the key, as if these had been asked one after the
other. The table can be read exactly if all of the sources can.
-/

namespace TestSkeleton

/-! ### The sources of a language in order -/

/-- The sources in a directory, from the lowest to the highest. -/
def sourcesIn (disk : Disk) (dir : Path) (root : Nat) (override : Bool) : List Source :=
  (Templates.listed disk dir).map fun f => ⟨root, override, f.1, f.2⟩

/-- The sources of a root, from the lowest to the highest. -/
def Root.sources (disk : Disk) (language : String) (r : Root) (root : Nat) : List Source :=
  [false, true].flatMap fun override =>
    sourcesIn (r.place disk).1 (languageDir (r.place disk).2 language override) root override

/-- The sources of a language, from the lowest to the highest. -/
def sourcesOf (disk : Disk) (roots : List Root) (language : String) : List Source :=
  roots.zipIdx.flatMap fun r => r.1.sources disk language r.2

variable {disk disk' : Disk} {roots : List Root} {language key text : String} {s t : Source}

/-- The sources of a language are those that the roots and the disk have. -/
theorem mem_sourcesOf : s ∈ sourcesOf disk roots language ↔ IsSource disk roots language s := by
  simp only [sourcesOf, Root.sources, sourcesIn, List.mem_flatMap, List.mem_map,
    Templates.mem_listed]
  constructor
  · rintro ⟨⟨root, i⟩, hroot, override, -, f, hf, rfl⟩
    exact ⟨root, List.mem_zipIdx_iff_getElem?.mp hroot, hf⟩
  · rintro ⟨root, hroot, hf⟩
    refine ⟨(root, s.root), List.mem_zipIdx_iff_getElem?.mpr hroot, s.override, ?_, _, hf, rfl⟩
    cases s.override <;> simp

/-- Of two sources one at most outranks the other. -/
theorem Source.Outranks.asymm (h : s.Outranks t) : ¬ t.Outranks s := by
  have hlt {a b : String} (hab : a < b) : ¬ b < a := by
    rw [← Text.compareTexts_eq_lt] at hab ⊢
    exact Std.OrientedCmp.not_lt_of_lt hab
  intro h'
  cases h <;> cases h' <;> grind

private theorem pairwise_sourcesIn (disk : Disk) (dir : Path) (root : Nat) (override : Bool) :
    (sourcesIn disk dir root override).Pairwise fun s t => t.Outranks s := by
  rw [sourcesIn, List.pairwise_map]
  refine (Templates.pairwise_listed disk dir).imp fun h => ?_
  rcases List.cons_lt_cons_iff.mp h with hparent | ⟨hparent, hname⟩
  · exact .directory rfl rfl hparent
  · exact .name rfl rfl hparent ((List.cons_lt_cons_iff.mp hname).resolve_right (by simp))

private theorem eq_of_mem_sourcesIn {dir : Path} {root : Nat} {override : Bool}
    (h : s ∈ sourcesIn disk dir root override) : s.root = root ∧ s.override = override := by
  obtain ⟨f, -, rfl⟩ := List.mem_map.mp h
  exact ⟨rfl, rfl⟩

private theorem Root.root_of_mem_sources {r : Root} {root : Nat}
    (h : s ∈ r.sources disk language root) : s.root = root := by
  obtain ⟨override, -, hs⟩ := List.mem_flatMap.mp h
  exact (eq_of_mem_sourcesIn hs).1

/-- The sources of a language are in the order of their ranks, each of them once. -/
theorem pairwise_sourcesOf (disk : Disk) (roots : List Root) (language : String) :
    (sourcesOf disk roots language).Pairwise fun s t => t.Outranks s := by
  rw [sourcesOf, List.pairwise_flatMap]
  constructor
  · rintro ⟨r, root⟩ -
    rw [Root.sources, List.pairwise_flatMap]
    refine ⟨fun override _ => pairwise_sourcesIn _ _ root override, ?_⟩
    refine List.pairwise_pair.mpr fun s hs t ht => ?_
    obtain ⟨hsroot, hsoverride⟩ := eq_of_mem_sourcesIn hs
    obtain ⟨htroot, htoverride⟩ := eq_of_mem_sourcesIn ht
    exact .override (hsroot.trans htroot.symm) hsoverride htoverride
  · have hpositions : (roots.zipIdx.map Prod.snd).Pairwise (· < ·) := by
      rw [List.zipIdx_map_snd]
      exact List.pairwise_lt_range'
    refine (List.pairwise_map.mp hpositions).imp fun hlt s hs t ht => .root ?_
    rwa [Root.root_of_mem_sources hs, Root.root_of_mem_sources ht]

/-! ### Merged tables -/

/-- The text that a source binds a key to, if it can be read. -/
def Source.bound (key : String) (s : Source) : Option String :=
  match Templates.ofContent s.content with
  | .ok ts => ts.lookup key
  | .error _ => none

/-- The newer of two tables wins. -/
theorem Templates.lookup_merge (older newer : Templates) (key : String) :
    (merge older newer).lookup key = (newer.lookup key).or (older.lookup key) := by
  rw [merge, List.lookup_append]
  cases hnewer : newer.lookup key with
  | some text => rfl
  | none =>
    -- the older templates of the key are kept
    rw [Option.none_or, Option.none_or]
    induction older with
    | nil => rfl
    | cons t older ih =>
      by_cases hkey : key = t.1
      · rw [List.filter_cons_of_pos (by simp [← hkey, hnewer]), List.lookup_cons, List.lookup_cons,
          hkey, beq_self_eq_true]
      · have hne : (key == t.1) = false := beq_eq_false_iff_ne.mpr hkey
        rw [List.lookup_cons, hne, ← ih, List.filter_cons]
        split
        · rw [List.lookup_cons, hne]
        · rfl

/-- Templates without older ones. -/
@[simp] theorem Templates.nil_merge (newer : Templates) : merge [] newer = newer := by simp [merge]

/-- Of three tables any two neighbours may be merged first. -/
theorem Templates.merge_assoc (a b c : Templates) : merge (merge a b) c = merge a (merge b c) := by
  have hover : ∀ key, ((merge b c).lookup key).isNone =
      ((b.lookup key).isNone && (c.lookup key).isNone) := by
    intro key
    rw [lookup_merge]
    cases c.lookup key <;> simp
  have hnewest : merge b c = c ++ b.filter fun t => (c.lookup t.1).isNone := rfl
  rw [merge, merge, merge, List.filter_append, List.filter_filter, ← List.append_assoc, ← hnewest]
  simp only [hover, Bool.and_comm]

/-- The first of some merged tables lies below what the others are merged to. -/
theorem Templates.foldl_merge_cons (own : Templates) (parts : List Templates) :
    (own :: parts).foldl merge [] = merge own (parts.foldl merge []) := by
  have : Std.Associative merge := ⟨merge_assoc⟩
  calc
    (own :: parts).foldl merge [] = parts.foldl merge (merge own []) := by
      rw [List.foldl_cons, nil_merge, merge_nil]
    _ = merge own (parts.foldl merge []) := List.foldl_assoc

/-- In merged tables a key has the text of the highest source that binds it, if this is so in each
of the tables. -/
theorem lookup_foldl_merge {ε α : Type} {g : α → Except ε Templates} {sources : α → List Source}
    (hg : ∀ x ts, g x = .ok ts → ts.lookup key = (sources x).reverse.findSome? (Source.bound key))
    {xs : List α} {parts : List Templates} (h : xs.mapM g = .ok parts) (merged : Templates) :
    (parts.foldl Templates.merge merged).lookup key =
      ((xs.flatMap sources).reverse.findSome? (Source.bound key)).or (merged.lookup key) := by
  induction xs generalizing parts merged with
  | nil =>
    cases h
    rfl
  | cons x xs ih =>
    obtain ⟨ts, rest, hts, hrest, rfl⟩ := Outcome.mapM_cons_eq_ok.mp h
    rw [List.foldl_cons, ih hrest, Templates.lookup_merge, hg x ts hts, List.flatMap_cons,
      List.reverse_append, List.findSome?_append, Option.or_assoc]

private theorem lookup_ofDirectory {dir : Path} {ts : Templates}
    (h : Templates.ofDirectory disk dir = .ok ts) (root : Nat) (override : Bool) :
    ts.lookup key =
      (sourcesIn disk dir root override).reverse.findSome? (Source.bound key) := by
  rw [Templates.ofDirectory_eq] at h
  obtain ⟨_, -, h⟩ := Outcome.bind_eq_ok.mp h
  obtain ⟨parts, hparts, rfl⟩ := Outcome.map_eq_ok.mp h
  have hfile : ∀ (f : Path × ByteArray) ts, Templates.ofContent f.2 = .ok ts → ts.lookup key =
      [(⟨root, override, f.1, f.2⟩ : Source)].reverse.findSome? (Source.bound key) := by
    intro f ts hts
    simp [Source.bound, hts]
  have hsources : sourcesIn disk dir root override =
      (Templates.listed disk dir).flatMap fun f => [⟨root, override, f.1, f.2⟩] :=
    List.map_eq_flatMap
  rw [lookup_foldl_merge hfile (Failure.ofFault_eq_ok.mp hparts), hsources]
  exact Option.or_none

/-- The templates of a root are those of its two directories, of which the overrides win. -/
theorem Root.templates_eq (disk : Disk) (language : String) (r : Root) :
    r.templates disk language =
      ([false, true].mapM fun override => Templates.ofDirectory (r.place disk).1
        (languageDir (r.place disk).2 language override)).map fun parts =>
          parts.foldl Templates.merge [] :=
  Outcome.bind_ok_eq_map _ _

/-- A fresh table merges the templates of the roots, the later ones over the earlier ones. -/
theorem Catalog.fresh_eq (disk : Disk) (roots : List Root) (language : String) :
    fresh disk roots language = (roots.mapM (Root.templates disk language)).map fun parts =>
      parts.foldl Templates.merge [] :=
  Outcome.bind_ok_eq_map _ _

/-- The templates of a root that comes first lie below those of the other roots. -/
theorem Catalog.fresh_cons (disk : Disk) (r : Root) (roots : List Root) (language : String) :
    fresh disk (r :: roots) language = fresh disk [r] language >>= fun own =>
      (fresh disk roots language).map (Templates.merge own) := by
  simp only [fresh_eq, List.mapM_cons, List.mapM_nil]
  cases r.templates disk language with
  | error e => rfl
  | ok own =>
    cases roots.mapM (Root.templates disk language) with
    | error e => rfl
    | ok parts =>
      change Except.ok ((own :: parts).foldl Templates.merge []) =
        Except.ok (Templates.merge ([own].foldl Templates.merge []) _)
      rw [Templates.foldl_merge_cons, List.foldl_cons, List.foldl_nil, Templates.nil_merge]

private theorem Root.lookup_templates {r : Root} {ts : Templates}
    (h : r.templates disk language = .ok ts) (root : Nat) :
    ts.lookup key = (r.sources disk language root).reverse.findSome? (Source.bound key) := by
  rw [templates_eq] at h
  obtain ⟨parts, hparts, rfl⟩ := Outcome.map_eq_ok.mp h
  rw [lookup_foldl_merge (fun override ts hts => lookup_ofDirectory hts root override) hparts]
  exact Option.or_none

/-- A lookup in the table of a language asks the sources, the highest first. -/
theorem lookup_fresh {ts : Templates} (h : Catalog.fresh disk roots language = .ok ts) :
    ts.lookup key = (sourcesOf disk roots language).reverse.findSome? (Source.bound key) := by
  rw [Catalog.fresh_eq, ← List.zipIdx_map_fst 0 roots, List.mapM_map] at h
  obtain ⟨parts, hparts, rfl⟩ := Outcome.map_eq_ok.mp h
  have hroot : ∀ (r : Root × Nat) ts, (Root.templates disk language ∘ Prod.fst) r = .ok ts →
      ts.lookup key = (r.1.sources disk language r.2).reverse.findSome? (Source.bound key) :=
    fun r ts hts => Root.lookup_templates hts r.2
  rw [lookup_foldl_merge hroot hparts]
  exact Option.or_none

/-! ### Languages that can be read -/

/-- All templates of a language can be read: each of its directories can be looked up, and no file
has a fault. -/
structure Legible (disk : Disk) (roots : List Root) (language : String) : Prop where
  directories : ∀ root ∈ roots, ∀ override, ∃ there, (root.place disk).1.isDirectory
    (Root.languageDir (root.place disk).2 language override) = .ok there
  files : ∀ s, IsSource disk roots language s → ∀ f, ¬ ContentFault s.content f

/-- A directory gives templates exactly where the disk can tell whether it
is there and no template file below it meets a fault. -/
theorem Templates.exists_ofDirectory_eq_ok {dir : Path} :
    (∃ ts, ofDirectory disk dir = .ok ts) ↔ (∃ there, disk.isDirectory dir = .ok there) ∧
      ∀ file, IsTemplateBelow disk dir file → ∀ f, ¬ ContentFault file.2 f := by
  have hfiles : (∃ parts, (listed disk dir).mapM (fun f => ofContent f.2) = .ok parts) ↔
      ∀ file, IsTemplateBelow disk dir file → ∀ f, ¬ ContentFault file.2 f := by
    simp only [Outcome.exists_mapM_eq_ok, mem_listed, exists_ofContent_eq_ok]
  rw [ofDirectory_eq, ← hfiles]
  cases disk.isDirectory dir with
  | error e => exact ⟨nofun, fun h => nomatch h.1⟩
  | ok there =>
    change (∃ ts, (Failure.ofFault _).map _ = .ok ts) ↔ _
    rw [Outcome.exists_map_eq_ok]
    simp only [Failure.ofFault_eq_ok]
    exact (and_iff_right ⟨there, rfl⟩).symm

/-- The table of a language can be read exactly if the language is legible. -/
theorem exists_fresh_eq_ok :
    (∃ ts, Catalog.fresh disk roots language = .ok ts) ↔ Legible disk roots language := by
  rw [Catalog.fresh_eq, Outcome.exists_map_eq_ok, Outcome.exists_mapM_eq_ok]
  simp only [Root.templates_eq, Outcome.exists_map_eq_ok, Outcome.exists_mapM_eq_ok,
    Templates.exists_ofDirectory_eq_ok]
  have hoverride : ∀ override, override ∈ [false, true] := by decide
  constructor
  · intro h
    refine ⟨fun root hroot override => (h root hroot override (hoverride _)).1, ?_⟩
    rintro s ⟨root, hroot, hs⟩
    exact (h root (List.mem_of_getElem? hroot) s.override (hoverride _)).2 _ hs
  · intro h root hroot override _
    refine ⟨h.directories root hroot override, fun file hfile => ?_⟩
    obtain ⟨i, hi⟩ := List.mem_iff_getElem?.mp hroot
    exact h.files ⟨i, override, file.1, file.2⟩ ⟨root, hi, hfile⟩

/-! ### The highest source -/

/-- A text is what the highest of the sources that bind a key binds it to. -/
def IsBest (disk : Disk) (roots : List Root) (language key text : String) : Prop :=
  ∃ s, IsSource disk roots language s ∧ Binds s.content key text ∧
    ∀ t text', IsSource disk roots language t → Binds t.content key text' → t = s ∨ s.Outranks t

/-- No source binds a key. -/
def Unbound (disk : Disk) (roots : List Root) (language key : String) : Prop :=
  ∀ s text, IsSource disk roots language s → ¬ Binds s.content key text

-- From the end of an ascending list the first item with a result is the greatest of all that have
-- one.
private theorem findSome?_reverse_eq_some {α β : Type} {R : α → α → Prop} {f : α → Option β}
    {l : List α} {b : β} (hasymm : ∀ a a', R a a' → ¬ R a' a) (hl : l.Pairwise R) :
    l.reverse.findSome? f = some b ↔
      ∃ a ∈ l, f a = some b ∧ ∀ a' ∈ l, ∀ b', f a' = some b' → a' = a ∨ R a' a := by
  have hgreatest {b} (h : l.reverse.findSome? f = some b) :
      ∃ a ∈ l, f a = some b ∧ ∀ a' ∈ l, ∀ b', f a' = some b' → a' = a ∨ R a' a := by
    obtain ⟨after, a, before, hsplit, ha, hafter⟩ := List.findSome?_eq_some_iff.mp h
    obtain rfl : l = before.reverse ++ a :: after.reverse := by
      simpa using congrArg List.reverse hsplit
    refine ⟨a, by simp, ha, fun a' ha' b' hb' => ?_⟩
    rcases List.mem_append.mp ha' with hbefore | hrest
    · exact .inr ((List.pairwise_append.mp hl).2.2 a' hbefore a List.mem_cons_self)
    · rcases List.mem_cons.mp hrest with rfl | hrest
      · exact .inl rfl
      · rw [hafter a' (List.mem_reverse.mp hrest)] at hb'
        cases hb'
  refine ⟨hgreatest, fun ⟨a, ha, hb, hmax⟩ => ?_⟩
  cases h : l.reverse.findSome? f with
  | none =>
    rw [List.findSome?_eq_none_iff.mp h a (List.mem_reverse.mpr ha)] at hb
    cases hb
  | some b' =>
    obtain ⟨a', ha', hb', hmax'⟩ := hgreatest h
    rcases hmax a' ha' b' hb' with rfl | hlt
    · exact hb' ▸ hb
    · rcases hmax' a ha b hb with rfl | hgt
      · exact hb' ▸ hb
      · exact absurd hgt (hasymm a' a hlt)

private theorem bound_eq_some (hlegible : Legible disk roots language)
    (hs : s ∈ sourcesOf disk roots language) :
    s.bound key = some text ↔ Binds s.content key text := by
  obtain ⟨ts, hts⟩ := Templates.exists_ofContent_eq_ok.mpr (hlegible.files s (mem_sourcesOf.mp hs))
  rw [Source.bound, hts]
  exact Templates.lookup_ofContent hts

/-- In the table of a language a key has the text of the highest source that binds it. -/
theorem lookup_fresh_eq_some {ts : Templates} (h : Catalog.fresh disk roots language = .ok ts) :
    ts.lookup key = some text ↔ IsBest disk roots language key text := by
  have hlegible := exists_fresh_eq_ok.mp ⟨ts, h⟩
  rw [lookup_fresh h, findSome?_reverse_eq_some (fun s t hst => hst.asymm)
    (pairwise_sourcesOf disk roots language)]
  constructor
  · rintro ⟨s, hs, hbound, hmax⟩
    refine ⟨s, mem_sourcesOf.mp hs, (bound_eq_some hlegible hs).mp hbound, ?_⟩
    intro t text' ht hbinds
    have hmem := mem_sourcesOf.mpr ht
    exact hmax t hmem text' ((bound_eq_some hlegible hmem).mpr hbinds)
  · rintro ⟨s, hs, hbinds, hmax⟩
    have hmem := mem_sourcesOf.mpr hs
    refine ⟨s, hmem, (bound_eq_some hlegible hmem).mpr hbinds, ?_⟩
    intro t ht text' hbound
    exact hmax t text' (mem_sourcesOf.mp ht) ((bound_eq_some hlegible ht).mp hbound)

/-- In the table of a language a key has no text exactly if no source binds it. -/
theorem lookup_fresh_eq_none {ts : Templates} (h : Catalog.fresh disk roots language = .ok ts) :
    ts.lookup key = none ↔ Unbound disk roots language key := by
  have hlegible := exists_fresh_eq_ok.mp ⟨ts, h⟩
  rw [lookup_fresh h, List.findSome?_eq_none_iff]
  constructor
  · intro hnone s text hs hbinds
    have hmem := mem_sourcesOf.mpr hs
    have hbound := hnone s (List.mem_reverse.mpr hmem)
    rw [(bound_eq_some hlegible hmem).mpr hbinds] at hbound
    cases hbound
  · intro hunbound s hs
    have hmem := List.mem_reverse.mp hs
    refine Option.eq_none_iff_forall_ne_some.mpr fun text hbound => ?_
    exact hunbound s text (mem_sourcesOf.mp hmem) ((bound_eq_some hlegible hmem).mp hbound)

/-- The table of a language depends on a disk by the directories of the roots only. -/
theorem Catalog.fresh_congr
    (h : ∀ path, .directory path ∈ roots → ∀ override,
      Templates.ofDirectory disk (Root.languageDir path language override) =
        Templates.ofDirectory disk' (Root.languageDir path language override)) :
    fresh disk roots language = fresh disk' roots language := by
  have hroot : ∀ root ∈ roots, root.templates disk language = root.templates disk' language := by
    intro root hroot
    rw [Root.templates_eq, Root.templates_eq]
    cases root with
    | packaged => rfl
    | directory path =>
      exact congrArg (Except.map _) (Outcome.mapM_congr fun override _ => h path hroot override)
  rw [fresh_eq, fresh_eq, Outcome.mapM_congr hroot]

/-- The order of the disk does not matter to the table of a language. -/
theorem Catalog.fresh_of_perm (h : disk.entries.Perm disk'.entries) (roots : List Root)
    (language : String) : fresh disk roots language = fresh disk' roots language :=
  fresh_congr fun _ _ _ => Templates.ofDirectory_of_perm h _

end TestSkeleton
