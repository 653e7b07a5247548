import TestSkeleton.Proofs.Json.Members
import TestSkeleton.Proofs.Message.Fill
import TestSkeleton.Proofs.Message.Merged

/-!
# The packaged templates

The table that the packaged files come to. They are read back as they were written, and all of their
templates are plain.
-/

namespace TestSkeleton

namespace Templates

/-- A text is read back from its bytes. -/
theorem fromUTF8?_toUTF8 (s : String) : String.fromUTF8? s.toUTF8 = some s := by
  simp only [String.fromUTF8?, Option.dite_none_right_eq_some]
  exact ⟨s.isValidUTF8, rfl⟩

/-- Templates of plain characters are read from the file that they are written to. -/
theorem ofContent_fileContent {ts : Templates}
    (h : ∀ t ∈ ts, Json.PlainText t.1 ∧ Json.PlainText t.2) (hnames : (ts.map Prod.fst).Nodup)
    (hne : ts ≠ []) : ofContent (Packaged.fileContent ts) = .ok ts := by
  have hshown : (ts.map fun t => (Value.text t.1, Value.text t.2)).mapM (fun e => do
      return ((← e.1.shown, ← e.2.shown) : String × String)) = (.ok ts : Except Fault _) := by
    clear h hnames hne
    induction ts with
    | nil => rfl
    | cons t ts ih => exact Outcome.mapM_cons_eq_ok.mpr ⟨t, ts, rfl, ih, rfl⟩
  have hentries : Value.ofTextEntries (ts.map fun t => (t.1, .text t.2)) =
      .map (ts.map fun t => (.text t.1, .text t.2)) := congrArg Value.map List.map_map
  rw [ofContent, Packaged.fileContent, hentries, fromUTF8?_toUTF8, Option.map_some,
    Json.read_write h hnames hne]
  exact hshown

/-- A template file with a path that a disk takes. -/
def IsOrdinary (p : Path) : Prop :=
  isTemplateFile p = true ∧ p.hasNull = false ∧ p.isTooLong = false ∧
    ∀ s ∈ p.segments, s.isTooLong = false

instance (p : Path) : Decidable (IsOrdinary p) := by
  unfold IsOrdinary
  infer_instance

/-- A directory lists its files, if they are in order and ordinary template files. -/
theorem listed_of_sorted {disk : Disk} {dir : Path} {files : List (Path × ByteArray)}
    (hdirectory : disk.isDirectory dir = .ok true) (hfiles : disk.filesBelow dir = files)
    (hsorted : files.Pairwise fun a b => readBefore a.1 b.1 = true)
    (hordinary : ∀ f ∈ files, IsOrdinary f.1) : listed disk dir = files := by
  rw [listed_of_isDirectory hdirectory, hfiles, List.mergeSort_of_pairwise hsorted]
  refine List.filter_eq_self.mpr fun f hf => ?_
  obtain ⟨htemplate, hnull, hlong, hshort⟩ := hordinary f hf
  subst hfiles
  rw [Disk.read_of_mem_filesBelow hf hnull hlong hshort, htemplate]
  rfl

end Templates

namespace Packaged

/-- All packaged templates. -/
def templates : Templates := generation ++ failures ++ commandLine

private def files : List (Path × ByteArray) :=
  [(.ofString "/needle/en/cli.json", fileContent commandLine),
   (.ofString "/needle/en/error.json", fileContent failures),
   (.ofString "/needle/en/generate.json", fileContent generation)]

private theorem filesBelow_en : disk.filesBelow (.ofString "/needle/en") = files :=
  Disk.filesBelow_ofFiles (by decide +kernel) (by decide +kernel) (by decide +kernel)

private def isPlainPiece : Template.Piece → Bool
  | .field f => (f.name.all fun c => c != '.' && c != '[') && f.style.isEmpty
  | _ => true

/-- A template of plain characters with plain fields, under a key of plain characters. -/
structure IsPlain (t : String × String) : Prop where
  key : Json.PlainText t.1
  text : Json.PlainText t.2
  fields : Template.Plain t.2

private theorem IsPlain.of_lists {key text : String} {ks cs : List Char}
    (hkey : key = String.ofList ks) (htext : text = String.ofList cs)
    (h : (ks.all Json.isPlain && cs.all Json.isPlain &&
      (Template.pieces cs).all isPlainPiece) = true) : IsPlain (key, text) := by
  subst hkey htext
  simp only [Bool.and_eq_true, List.all_eq_true] at h
  refine ⟨?_, ?_, ?_⟩
  · rw [Json.PlainText, String.toList_ofList]
    exact h.1.1
  · rw [Json.PlainText, String.toList_ofList]
    exact h.1.2
  · intro f hf
    rw [String.toList_ofList] at hf
    obtain ⟨hname, hstyle⟩ := Bool.and_eq_true_iff.mp (h.2 _ hf)
    refine ⟨fun c hc => ?_, List.isEmpty_iff.mp hstyle⟩
    have hchar := List.all_eq_true.mp hname c hc
    simpa using hchar

private theorem isPlain_commandLine : ∀ t ∈ commandLine, IsPlain t := by
  intro t ht
  simp only [commandLine, List.mem_cons, List.not_mem_nil, or_false] at ht
  rcases ht with rfl | rfl | rfl | rfl | rfl | rfl <;>
    exact IsPlain.of_lists rfl rfl (by decide +kernel)

private theorem isPlain_failures : ∀ t ∈ failures, IsPlain t := by
  intro t ht
  simp only [failures, List.mem_cons, List.not_mem_nil, or_false] at ht
  rcases ht with rfl | rfl | rfl | rfl <;> exact IsPlain.of_lists rfl rfl (by decide +kernel)

private theorem isPlain_generation : ∀ t ∈ generation, IsPlain t := by
  intro t ht
  simp only [generation, List.mem_cons, List.not_mem_nil, or_false] at ht
  rcases ht with rfl | rfl | rfl | rfl | rfl | rfl <;>
    exact IsPlain.of_lists rfl rfl (by decide +kernel)

/-- Every packaged template is plain. -/
theorem isPlain_of_mem {t : String × String} (h : t ∈ templates) : IsPlain t := by
  rw [templates, List.mem_append, List.mem_append] at h
  rcases h with (h | h) | h
  · exact isPlain_generation t h
  · exact isPlain_failures t h
  · exact isPlain_commandLine t h

/-- The packaged files hold their templates. -/
theorem ofDirectory_en : Templates.ofDirectory disk (.ofString "/needle/en") = .ok templates := by
  have hcommandLine : Templates.ofContent (fileContent commandLine) = .ok commandLine :=
    Templates.ofContent_fileContent (fun t ht => ⟨(isPlain_commandLine t ht).key,
      (isPlain_commandLine t ht).text⟩) (by decide +kernel) (List.cons_ne_nil _ _)
  have hfailures : Templates.ofContent (fileContent failures) = .ok failures :=
    Templates.ofContent_fileContent (fun t ht => ⟨(isPlain_failures t ht).key,
      (isPlain_failures t ht).text⟩) (by decide +kernel) (List.cons_ne_nil _ _)
  have hgeneration : Templates.ofContent (fileContent generation) = .ok generation :=
    Templates.ofContent_fileContent (fun t ht => ⟨(isPlain_generation t ht).key,
      (isPlain_generation t ht).text⟩) (by decide +kernel) (List.cons_ne_nil _ _)
  have hparts : files.mapM (fun f => Templates.ofContent f.2) =
      .ok [commandLine, failures, generation] :=
    Outcome.mapM_cons_eq_ok.mpr ⟨_, _, hcommandLine, Outcome.mapM_cons_eq_ok.mpr
      ⟨_, _, hfailures, Outcome.mapM_cons_eq_ok.mpr ⟨_, _, hgeneration, rfl, rfl⟩, rfl⟩, rfl⟩
  have hdirectory : disk.isDirectory (.ofString "/needle/en") = .ok true := by decide +kernel
  rw [Templates.ofDirectory_eq, hdirectory, Templates.listed_of_sorted hdirectory filesBelow_en
    (by decide +kernel) (by decide +kernel), hparts]
  exact congrArg Except.ok (by decide +kernel)

/-- The root of the packaged files gives them for the default language. -/
theorem templates_packaged (d : Disk) : Root.packaged.templates d defaultLanguage = .ok templates := by
  have hdirs : Root.templateDirs (.ofString "/") defaultLanguage =
      [.ofString "/needle/en", .ofString "/.stubwright/needle/en"] := by decide +kernel
  have hmissing : Templates.ofDirectory disk (.ofString "/.stubwright/needle/en") = .ok [] := by
    have hdirectory : disk.isDirectory (.ofString "/.stubwright/needle/en") = .ok false := by
      decide +kernel
    rw [Templates.ofDirectory, hdirectory]
    rfl
  have hparts : [(.ofString "/needle/en" : Path), .ofString "/.stubwright/needle/en"].mapM
      (Templates.ofDirectory disk) = .ok [templates, []] :=
    Outcome.mapM_cons_eq_ok.mpr ⟨_, _, ofDirectory_en, Outcome.mapM_cons_eq_ok.mpr
      ⟨_, _, hmissing, rfl, rfl⟩, rfl⟩
  rw [Root.templates, Root.place]
  change (do
    let parts ← (Root.templateDirs (.ofString "/") defaultLanguage).mapM
      (Templates.ofDirectory disk)
    return parts.foldl Templates.merge []) = _
  rw [hdirs, hparts]
  change Except.ok ([templates, []].foldl Templates.merge []) = _
  simp

end Packaged

end TestSkeleton
