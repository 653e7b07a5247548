import TestSkeleton.Proofs.Message.Growth
import TestSkeleton.Proofs.Message.Packaged

/-!
# Broken template files

A file below a directory of templates may be no template file, may not open, or may hold no JSON
object. It is then as good as absent: without it the directory has the same templates, and every
message is what it was. The other broken files stay broken, so any number of them may go.

Specification: `SPEC_FULL.md:221–224`.
-/

namespace TestSkeleton

/-- What makes a file worthless as a template file. -/
inductive IsBroken (disk : Disk) (f : Path × ByteArray) : Prop
  | suffix (h : f.1.suffix.toLower ≠ ".json")
  | unopened {e : Failure} (h : disk.read f.1 = .error e)
  | undecodable (h : String.fromUTF8? f.2 = none)
  | malformed {json : String} (hjson : String.fromUTF8? f.2 = some json)
      (hread : Json.read json = .error .malformed)
  | noObject {json : String} {document : Value} (hjson : String.fromUTF8? f.2 = some json)
      (hread : Json.read json = .ok document) (hdocument : document.entries? = none)

/-- The only complaint that a file below a directory gives rise to when its JSON is read is that it
is malformed. -/
def OnlyMalformed (disk : Disk) (dir : Path) : Prop :=
  ∀ g ∈ disk.filesBelow dir, ∀ json f, String.fromUTF8? g.2 = some json →
    Json.read json ≠ .error (.fault f)

/-- A file below a directory that is not opened by its own path is not opened by the one that leads
through the directory either. -/
def OpensAlike (disk : Disk) (f : Path × ByteArray) (dir : Path) : Prop :=
  ∀ g ∈ disk.filesBelow dir, g.1.place = f.1.place →
    (disk.read g.1).isOk = true → (disk.read f.1).isOk = true

/-- A disk without some of its files. -/
def Disk.eraseFiles (d : Disk) (files : List (Path × ByteArray)) : Disk :=
  files.foldl (fun d f => d.eraseFile f.1.place) d

variable {disk : Disk} {dir dir' : Path} {f g : Path × ByteArray}
  {files broken : List (Path × ByteArray)} {q : Place}

/-- A broken file is broken by every path to it, if it is opened by none of them or by its own. -/
theorem IsBroken.of_place (h : IsBroken disk f) (hf : f ∈ disk.filesBelow dir)
    (hg : g ∈ disk.filesBelow dir') (hplace : g.1.place = f.1.place)
    (hopens : (disk.read g.1).isOk = true → (disk.read f.1).isOk = true) : IsBroken disk g := by
  have hname : g.1.name = f.1.name := by
    rw [Disk.name_of_mem_filesBelow hg, Disk.name_of_mem_filesBelow hf, hplace]
  have hcontent : g.2 = f.2 := by
    have hlook := Disk.lookAt_of_mem_filesBelow hg
    rw [hplace, Disk.lookAt_of_mem_filesBelow hf] at hlook
    exact (Entry.file.inj (Option.some.inj hlook)).symm
  cases h with
  | suffix h => exact .suffix (by rwa [Path.suffix, hname])
  | unopened h =>
    cases hread : disk.read g.1 with
    | error e => exact .unopened hread
    | ok content =>
      rw [hread, h] at hopens
      cases hopens rfl
  | undecodable h => exact .undecodable (hcontent ▸ h)
  | malformed hjson hread => exact .malformed (hcontent ▸ hjson) hread
  | noObject hjson hread hdocument => exact .noObject (hcontent ▸ hjson) hread hdocument

/-- A broken file stays broken when another file is erased. -/
theorem IsBroken.eraseFile (h : IsBroken disk f) (hne : f.1.place ≠ q) :
    IsBroken (disk.eraseFile q) f := by
  cases h with
  | suffix h => exact .suffix h
  | unopened h =>
    cases hread : (disk.eraseFile q).read f.1 with
    | error e => exact .unopened hread
    | ok content =>
      rw [(Disk.read_eraseFile_eq_ok hne).mp hread] at h
      cases h
  | undecodable h => exact .undecodable h
  | malformed hjson hread => exact .malformed hjson hread
  | noObject hjson hread hdocument => exact .noObject hjson hread hdocument

namespace Templates

private theorem ofContent_of_isBroken (h : IsBroken disk f) (hf : f ∈ listed disk dir) :
    ofContent f.2 = .ok [] := by
  obtain ⟨-, -, hsuffix, hopened⟩ := mem_listed.mp hf
  cases h with
  | suffix h => exact absurd hsuffix h
  | unopened h =>
    rw [hopened] at h
    cases h
  | undecodable h => rw [ofContent, h, Option.map_none]
  | malformed hjson hread => rw [ofContent, hjson, Option.map_some, hread]
  | noObject hjson hread hdocument =>
    rw [ofContent, hjson, Option.map_some, hread]
    dsimp only
    rw [hdocument]

private theorem ofDirectory_eraseFile
    (h : ∀ g ∈ disk.filesBelow dir, g.1.place = q → IsBroken disk g) :
    ofDirectory (disk.eraseFile q) dir = ofDirectory disk dir := by
  have hdropped : ∀ g ∈ listed disk dir, decide (g.1.place ≠ q) = false →
      ofContent g.2 = .ok [] := by
    intro g hg hplace
    rw [decide_eq_false_iff_not, not_not] at hplace
    obtain ⟨hdir, hfile, -, -⟩ := mem_listed.mp hg
    have hmem := (Disk.mem_filesBelow (Disk.locate_of_isDirectory hdir)).mpr hfile
    exact ofContent_of_isBroken (h g hmem hplace) hg
  rw [ofDirectory_eq, ofDirectory_eq, Disk.isDirectory_eraseFile, listed_eraseFile, map_ofFault,
    map_ofFault, ← merged_filter (fun _ _ _ => rfl) hdropped]

/-- A directory has the same templates without any files that are broken there. -/
theorem ofDirectory_eraseFiles
    (h : ∀ f ∈ files, ∀ g ∈ disk.filesBelow dir, g.1.place = f.1.place → IsBroken disk g) :
    ofDirectory (disk.eraseFiles files) dir = ofDirectory disk dir := by
  induction files generalizing disk with
  | nil => rfl
  | cons f files ih =>
    obtain ⟨hf, hfiles⟩ := List.forall_mem_cons.mp h
    calc
      ofDirectory (disk.eraseFiles (f :: files)) dir =
          ofDirectory (disk.eraseFile f.1.place) dir := by
        refine ih fun f' hf' g hg hplace => ?_
        rw [Disk.filesBelow_eraseFile, List.mem_filter, decide_eq_true_eq] at hg
        exact (hfiles f' hf' g hg.1 hplace).eraseFile hg.2
      _ = ofDirectory disk dir := ofDirectory_eraseFile hf

/-- The templates of a directory can be read if its files are at most malformed. -/
theorem exists_ofDirectory_of_onlyMalformed (h : OnlyMalformed disk dir)
    (hf : f ∈ disk.filesBelow dir) : ∃ ts, ofDirectory disk dir = .ok ts := by
  refine exists_ofDirectory_eq_ok.mpr ⟨?_, fun g hg fault hfault => ?_⟩
  · cases hdir : disk.isDirectory dir with
    | ok there => exact ⟨there, rfl⟩
    | error e =>
      obtain ⟨-, hloc, -⟩ := Disk.isDirectory_eq_error.mp hdir
      rw [Disk.locate_of_mem_filesBelow hf] at hloc
      cases hloc
  · cases hfault with
    | document hjson hread =>
      have hmem := (Disk.mem_filesBelow (Disk.locate_of_mem_filesBelow hf)).mpr hg.file
      exact h g hmem _ fault hjson hread
    | value hobject hvalue =>
      -- what is read from JSON always has a text
      obtain ⟨json, document, hjson, hread, hentries⟩ := hobject
      obtain ⟨before, e, after, rfl, -, he⟩ := hvalue
      obtain ⟨text, htext⟩ := Json.exists_shown_of_read hread hentries (e := e) (by simp)
      rw [htext] at he
      cases he

/-- Broken files are as good as absent, be it one or several. The templates of the directory are
read, and are the same without the files, and no lookup in a catalog comes to anything else or
leaves another catalog behind. A file may be found below several directories: one that is not opened
may not be opened through the roots of the catalog. -/
theorem ofDirectory_without_broken (hne : broken ≠ [])
    (hbroken : ∀ f ∈ broken, f ∈ disk.filesBelow dir ∧ IsBroken disk f)
    (hjson : OnlyMalformed disk dir) :
    (∃ ts, ofDirectory disk dir = .ok ts ∧ ofDirectory (disk.eraseFiles broken) dir = .ok ts) ∧
      ∀ (c : Catalog) (environment : Option String),
        (∀ f ∈ broken, ∀ path, .directory path ∈ c.roots → ∀ language override,
          OpensAlike disk f (Root.languageDir path language override)) →
        ∀ key language,
          (Catalog.get { disk := disk.eraseFiles broken, language := environment } key
            language).run c =
          (Catalog.get { disk, language := environment } key language).run c := by
  have hsame (dir' : Path) (hopens : ∀ f ∈ broken, OpensAlike disk f dir') :
      ofDirectory (disk.eraseFiles broken) dir' = ofDirectory disk dir' := by
    refine ofDirectory_eraseFiles fun f hf g hg hplace => ?_
    obtain ⟨hmem, hf'⟩ := hbroken f hf
    exact hf'.of_place hmem hg hplace (hopens f hf g hg hplace)
  constructor
  · obtain ⟨f, hf⟩ := List.exists_mem_of_ne_nil _ hne
    obtain ⟨ts, hts⟩ := exists_ofDirectory_of_onlyMalformed hjson (hbroken f hf).1
    refine ⟨ts, hts, (hsame dir fun f hf g hg hplace hopened => ?_).trans hts⟩
    rwa [← Disk.eq_of_place_eq hg (hbroken f hf).1 hplace]
  · intro c environment hopens key language
    refine Catalog.getIn_congr fun language => ?_
    refine Catalog.fresh_congr fun path hpath override => ?_
    exact hsame _ fun f hf => hopens f hf path hpath language override

/-! ### A file with half a list -/

/-- A template file that holds an opening bracket. -/
def bracketFile : Path × ByteArray := (.ofString "/needle/en/a.json", "[".toUTF8)

/-- A disk with this file beside one that binds a key. -/
def bracketDisk : Disk :=
  .ofFiles [bracketFile, (.ofString "/needle/en/b.json", Packaged.fileContent [("k", "v")])]

private theorem filesBelow_bracketDisk : bracketDisk.filesBelow (.ofString "/needle/en") =
    [bracketFile, (.ofString "/needle/en/b.json", Packaged.fileContent [("k", "v")])] :=
  Disk.filesBelow_ofFiles (by decide +kernel) (by decide +kernel) (by decide +kernel)

private theorem read_bracket : Json.read "[" = .error .malformed := by
  have hmalformed : (Json.read "[").map (fun _ => ()) = .error .malformed := by decide +kernel
  exact Outcome.map_eq_error.mp hmalformed

private theorem onlyMalformed_bracketDisk :
    OnlyMalformed bracketDisk (.ofString "/needle/en") := by
  intro g hg json f hjson hread
  have hfault := ContentFault.document hjson hread
  rw [filesBelow_bracketDisk] at hg
  rcases List.mem_pair.mp hg with rfl | rfl
  · rw [bracketFile, fromUTF8?_toUTF8] at hjson
    cases hjson
    rw [read_bracket] at hread
    cases hread
  · have hplain : ∀ t ∈ [("k", "v")], Json.PlainText t.1 ∧ Json.PlainText t.2 := by
      simp [Json.PlainText, Json.isPlain]
    rw [← ofContent_eq_error, ofContent_fileContent hplain (by decide) (by decide)] at hfault
    cases hfault

/-- The file with the bracket may be erased, for the directory and for lookups through the root. -/
theorem ofDirectory_without_bracket :
    (∃ ts, ofDirectory bracketDisk (.ofString "/needle/en") = .ok ts ∧
      ofDirectory (bracketDisk.eraseFiles [bracketFile]) (.ofString "/needle/en") = .ok ts) ∧
      ∀ key language,
        (Catalog.get { disk := bracketDisk.eraseFiles [bracketFile] } key language).run
            { roots := [.directory (.ofString "/")] } =
          (Catalog.get { disk := bracketDisk } key language).run
            { roots := [.directory (.ofString "/")] } := by
  have hmem : bracketFile ∈ bracketDisk.filesBelow (.ofString "/needle/en") := by
    rw [filesBelow_bracketDisk]
    exact List.mem_cons_self
  have hbroken : IsBroken bracketDisk bracketFile :=
    .malformed (fromUTF8?_toUTF8 "[") read_bracket
  have hopened : (bracketDisk.read bracketFile.1).isOk = true := by decide +kernel
  obtain ⟨hsame, hlookup⟩ := ofDirectory_without_broken (List.cons_ne_nil bracketFile [])
    (List.forall_mem_singleton.mpr ⟨hmem, hbroken⟩) onlyMalformed_bracketDisk
  refine ⟨hsame, hlookup _ none fun f hf _ _ _ _ _ _ _ _ => ?_⟩
  rwa [List.mem_singleton.mp hf]

end Templates

end TestSkeleton
