import TestSkeleton.Proofs.Message.Growth
import TestSkeleton.Proofs.Message.Merged
import TestSkeleton.Proofs.Message.Packaged

/-!
# The source of a message

A message comes from the highest source that binds its key, in the language that is asked for or
else in the default language. It is found wherever the tables on the way can be read, and what is
found does not depend on the order of the disk.

Specification: `SPEC_FULL.md:221–224`.
-/

namespace TestSkeleton

variable {disk disk' : Disk} {roots : List Root} {language key text : String}

/-- What a key comes to in some languages: the best text in the first of them that binds it, all
languages up to that one legible, and otherwise the key itself. -/
inductive Resolves (disk : Disk) (roots : List Root) (key : String) : List String → String → Prop
  | unbound : Resolves disk roots key [] key
  | best {language text : String} {rest : List String} (hlegible : Legible disk roots language)
      (hbest : IsBest disk roots language key text) :
      Resolves disk roots key (language :: rest) text
  | next {language text : String} {rest : List String} (hlegible : Legible disk roots language)
      (hunbound : Unbound disk roots language key) (hrest : Resolves disk roots key rest text) :
      Resolves disk roots key (language :: rest) text

/-- The language that is asked for: one that is named for the lookup, or else in the environment, or
else the default. An empty name names none. -/
inductive Asks (language environment : Option String) : String → Prop
  | explicit {l : String} (hlanguage : language = some l) (hne : l ≠ "") :
      Asks language environment l
  | environment {l : String} (hlanguage : ∀ l, language = some l → l = "")
      (henvironment : environment = some l) (hne : l ≠ "") : Asks language environment l
  | default (hlanguage : ∀ l, language = some l → l = "")
      (henvironment : ∀ l, environment = some l → l = "") : Asks language environment "en"

namespace Catalog

variable {c : Catalog} {languages : List String}

/-- All tables of a catalog are as the roots have them on the disk. -/
def Current (c : Catalog) (disk : Disk) : Prop :=
  ∀ language ts, c.tables.lookup language = some ts → fresh disk c.roots language = .ok ts

/-- A catalog without tables has none that is out of date. -/
theorem current_of_roots : (Catalog.mk roots []).Current disk := by
  intro language ts h
  cases h

/-- A catalog with current tables gives the tables that the roots have. -/
theorem given_of_current (h : c.Current disk) : given disk c = fresh disk c.roots := by
  funext language
  cases hlookup : c.tables.lookup language with
  | some ts => rw [given_of_lookup hlookup, h language ts hlookup]
  | none => exact given_of_unread hlookup

/-- In the tables of roots a key is found as what it comes to. -/
theorem inTables_fresh_eq_ok :
    inTables (fresh disk roots) key languages = .ok text ↔
      Resolves disk roots key languages text := by
  induction languages with
  | nil =>
    constructor
    · intro hkey
      cases hkey
      exact .unbound
    · rintro ⟨⟩
      rfl
  | cons language rest ih =>
    rw [inTables]
    cases hfresh : fresh disk roots language with
    | error e =>
      have hillegible : ¬ Legible disk roots language := by
        rintro hlegible
        obtain ⟨ts, hts⟩ := exists_fresh_eq_ok.mpr hlegible
        rw [hfresh] at hts
        cases hts
      constructor
      · intro h
        cases h
      · rintro (_ | ⟨hlegible, -⟩ | ⟨hlegible, -, -⟩)
        · exact absurd hlegible hillegible
        · exact absurd hlegible hillegible
    | ok ts =>
      have hlegible := exists_fresh_eq_ok.mp ⟨ts, hfresh⟩
      dsimp only
      cases hkey : ts.lookup key with
      | some found =>
        constructor
        · intro hfound
          cases hfound
          exact .best hlegible ((lookup_fresh_eq_some hfresh).mp hkey)
        · rintro (_ | ⟨-, hbest⟩ | ⟨-, hunbound, -⟩)
          · rw [(lookup_fresh_eq_some hfresh).mpr hbest] at hkey
            cases hkey
            rfl
          · rw [(lookup_fresh_eq_none hfresh).mpr hunbound] at hkey
            cases hkey
      | none =>
        have hunbound := (lookup_fresh_eq_none hfresh).mp hkey
        dsimp only
        rw [ih]
        constructor
        · exact .next hlegible hunbound
        · rintro (_ | ⟨-, hbest⟩ | ⟨-, -, hrest⟩)
          · rw [(lookup_fresh_eq_some hfresh).mpr hbest] at hkey
            cases hkey
          · exact hrest

/-- A lookup finds what the key comes to. -/
theorem getIn_eq_ok (h : c.Current disk) :
    ((getIn disk key languages).run c).1 = .ok text ↔ Resolves disk c.roots key languages text := by
  rw [(getIn_run disk key languages c).1, given_of_current h]
  exact inTables_fresh_eq_ok

private theorem resolves_pair : Resolves disk roots key [language, language] text ↔
    Resolves disk roots key [language] text := by
  rw [← inTables_fresh_eq_ok, ← inTables_fresh_eq_ok, inTables_pair]

-- A key comes to something exactly if the first language is legible, and either has a text for the
-- key or leaves it to a second language that is legible too.
private theorem exists_resolves_pair {first second : String} :
    (∃ text, Resolves disk roots key [first, second] text) ↔
      Legible disk roots first ∧ ((∃ text, IsBest disk roots first key text) ∨
        Unbound disk roots first key ∧ Legible disk roots second) := by
  constructor
  · rintro ⟨text, _ | ⟨hlegible, hbest⟩ | ⟨hlegible, hunbound, hrest⟩⟩
    · exact ⟨hlegible, .inl ⟨text, hbest⟩⟩
    · rcases hrest with _ | ⟨hsecond, -⟩ | ⟨hsecond, -, -⟩
      · exact ⟨hlegible, .inr ⟨hunbound, hsecond⟩⟩
      · exact ⟨hlegible, .inr ⟨hunbound, hsecond⟩⟩
  · rintro ⟨hlegible, ⟨text, hbest⟩ | ⟨hunbound, hsecond⟩⟩
    · exact ⟨text, .best hlegible hbest⟩
    · obtain ⟨ts, hts⟩ := exists_fresh_eq_ok.mpr hsecond
      cases hkey : ts.lookup key with
      | some text =>
        have hbest := (lookup_fresh_eq_some hts).mp hkey
        exact ⟨text, .next hlegible hunbound (.best hsecond hbest)⟩
      | none =>
        have hnone := (lookup_fresh_eq_none hts).mp hkey
        exact ⟨key, .next hlegible hunbound (.next hsecond hnone .unbound)⟩

/-- The language that is looked up first is the one that is asked for. -/
theorem asks_firstGiven (language environment : Option String) :
    Asks language environment (firstGiven defaultLanguage [language, environment]) := by
  have henvironment (hlanguage : ∀ l, language = some l → l = "") :
      Asks language environment (firstGiven defaultLanguage [environment]) := by
    rcases environment with _ | l
    · exact .default hlanguage nofun
    · by_cases hl : l = ""
      · subst hl
        exact .default hlanguage fun l h => (Option.some.inj h).symm
      · rw [firstGiven, if_neg hl]
        exact .environment hlanguage rfl hl
  rcases language with _ | l
  · exact henvironment nofun
  · by_cases hl : l = ""
    · subst hl
      exact henvironment fun l h => (Option.some.inj h).symm
    · rw [firstGiven, if_neg hl]
      exact .explicit rfl hl

/-- The language asked for is the first one given. -/
theorem firstGiven_of_asks {language environment : Option String} {asked : String}
    (h : Asks language environment asked) :
    firstGiven defaultLanguage [language, environment] = asked := by
  cases h with
  | explicit hlanguage hne => simp [hlanguage, firstGiven, hne]
  | environment hlanguage henvironment hne =>
    cases language with
    | none => simp [henvironment, firstGiven, hne]
    | some l => simp [hlanguage l rfl, henvironment, firstGiven, hne]
  | default hlanguage henvironment =>
    cases language with
    | none =>
      cases environment with
      | none => rfl
      | some l => simp [henvironment l rfl, firstGiven, defaultLanguage]
    | some l =>
      cases environment with
      | none => simp [hlanguage l rfl, firstGiven, defaultLanguage]
      | some l' => simp [hlanguage l rfl, henvironment l' rfl, firstGiven, defaultLanguage]

/-- The order of the disk does not matter to lookups. -/
theorem getIn_of_perm (h : disk.entries.Perm disk'.entries) (key : String)
    (languages : List String) : getIn disk key languages = getIn disk' key languages := by
  funext c
  exact getIn_congr (fresh_of_perm h c.roots)

/-- A lookup in a catalog without tables finds the text of the highest source that binds the key, in
the language that is asked for or else in the default language, and the key itself if there is none.
It finds something exactly if the first language can be read and either has the text or leaves it to
a default language that can be read as well. The order of the disk does not matter. -/
theorem get_eq_best (disk : Disk) (roots : List Root) (key : String)
    (language environment : Option String) :
    ∃ asked, Asks language environment asked ∧
      (∀ text, ((get { disk, language := environment } key language).run { roots }).1 = .ok text ↔
        Resolves disk roots key [asked, defaultLanguage] text) ∧
      ((∃ text, ((get { disk, language := environment } key language).run { roots }).1 =
          .ok text) ↔
        Legible disk roots asked ∧ ((∃ text, IsBest disk roots asked key text) ∨
          Unbound disk roots asked key ∧ Legible disk roots defaultLanguage)) ∧
      ∀ disk' : Disk, disk.entries.Perm disk'.entries →
        (get { disk := disk', language := environment } key language).run { roots } =
          (get { disk, language := environment } key language).run { roots } := by
  have hget (disk : Disk) (text : String) :
      ((get { disk, language := environment } key language).run { roots }).1 = .ok text ↔
        Resolves disk roots key
          [firstGiven defaultLanguage [language, environment], defaultLanguage] text := by
    change ((getIn disk key (if firstGiven defaultLanguage [language, environment] = defaultLanguage
      then _ else _)).run ⟨roots, []⟩).1 = .ok text ↔ _
    rw [getIn_eq_ok current_of_roots]
    split
    · next hdefault => rw [hdefault, resolves_pair]
    · rfl
  refine ⟨_, asks_firstGiven language environment, hget disk, ?_, fun disk' h => ?_⟩
  · simp only [hget, exists_resolves_pair]
  · exact congrArg (StateT.run · _) (getIn_of_perm h.symm key _)

/-! ### A number of too many digits -/

/-- The text of an object with a number of too many digits. -/
def longNumber : List Char :=
  "\x7b\"n\":".toList ++ List.replicate 5000 '1' ++ "\x7d".toList

/-- A disk with a template file of this text, beside one that binds a key. -/
def longNumberDisk : Disk :=
  .ofFiles [(.ofString "/needle/en/a.json", (String.ofList longNumber).toUTF8),
    (.ofString "/needle/en/b.json", Packaged.fileContent [("k", "v")])]

private theorem read_longNumber :
    Json.read (String.ofList longNumber) = .error (.fault .badValue) := by
  have hfault : (Json.read (String.ofList longNumber)).map (fun _ => ()) =
      .error (.fault .badValue) := by
    rw [Json.read, String.toList_ofList]
    decide +kernel
  exact Outcome.map_eq_error.mp hfault

private theorem not_binds_longNumber (key text : String) :
    ¬ Binds (String.ofList longNumber).toUTF8 key text := by
  rintro ⟨entries, v, ⟨json, document, hjson, hread, -⟩, -⟩
  rw [Templates.fromUTF8?_toUTF8] at hjson
  obtain rfl := Option.some.inj hjson
  rw [read_longNumber] at hread
  cases hread

private theorem listed_longNumberDisk :
    Templates.listed longNumberDisk (.ofString "/needle/en") =
      [(.ofString "/needle/en/a.json", (String.ofList longNumber).toUTF8),
        (.ofString "/needle/en/b.json", Packaged.fileContent [("k", "v")])] := by
  have hfiles : longNumberDisk.filesBelow (.ofString "/needle/en") =
      [(.ofString "/needle/en/a.json", (String.ofList longNumber).toUTF8),
        (.ofString "/needle/en/b.json", Packaged.fileContent [("k", "v")])] :=
    Disk.filesBelow_ofFiles (by decide +kernel) (by decide +kernel) (by decide +kernel)
  exact Templates.listed_of_sorted (by decide +kernel) hfiles (by decide +kernel)
    (by decide +kernel)

private theorem isSource_longNumberDisk :
    ∃ a b : Source, a.content = (String.ofList longNumber).toUTF8 ∧
      b.content = Packaged.fileContent [("k", "v")] ∧
      ∀ s, IsSource longNumberDisk [.directory (.ofString "/")] "en" s ↔ s = a ∨ s = b := by
  have hdir : Root.languageDir (.ofString "/") "en" false = .ofString "/needle/en" := by
    decide +kernel
  have hoverrides : Templates.listed longNumberDisk
      (Root.languageDir (.ofString "/") "en" true) = [] := by
    have hmissing : longNumberDisk.isDirectory (Root.languageDir (.ofString "/") "en" true) =
        .ok false := by decide +kernel
    rw [Templates.listed, hmissing]
  have hsources : sourcesOf longNumberDisk [.directory (.ofString "/")] "en" =
      sourcesIn longNumberDisk (.ofString "/needle/en") 0 false := by
    simp [sourcesOf, Root.sources, Root.place, hdir, sourcesIn, hoverrides]
  refine ⟨⟨0, false, .ofString "/needle/en/a.json", (String.ofList longNumber).toUTF8⟩,
    ⟨0, false, .ofString "/needle/en/b.json", Packaged.fileContent [("k", "v")]⟩,
    by dsimp only, by dsimp only, fun s => ?_⟩
  rw [← mem_sourcesOf, hsources, sourcesIn, listed_longNumberDisk]
  simp

/-- A file with such a number is not left out, so its language cannot be read. -/
theorem not_legible_longNumberDisk :
    ¬ Legible longNumberDisk [.directory (.ofString "/")] "en" := by
  obtain ⟨a, b, ha, -, hsource⟩ := isSource_longNumberDisk
  intro h
  have hfile := h.files a ((hsource a).mpr (.inl rfl)) .badValue
  rw [ha] at hfile
  exact hfile (.document (Templates.fromUTF8?_toUTF8 _) read_longNumber)

/-- Beside a file with such a number no text is found, although another file binds the key. -/
theorem get_beside_longNumber :
    IsBest longNumberDisk [.directory (.ofString "/")] "en" "k" "v" ∧ ∀ text,
      ((get { disk := longNumberDisk } "k").run { roots := [.directory (.ofString "/")] }).1 ≠
        .ok text := by
  obtain ⟨a, b, ha, hb, hsource⟩ := isSource_longNumberDisk
  constructor
  · have hplain : ∀ t ∈ [("k", "v")], Json.PlainText t.1 ∧ Json.PlainText t.2 := by
      simp [Json.PlainText, Json.isPlain]
    have hbinds : Binds b.content "k" "v" := by
      rw [hb]
      exact (Templates.lookup_ofContent
        (Templates.ofContent_fileContent hplain (by decide) (by decide))).mp rfl
    refine ⟨b, (hsource b).mpr (.inr rfl), hbinds, fun t text ht htext => ?_⟩
    rcases (hsource t).mp ht with rfl | rfl
    · rw [ha] at htext
      exact absurd htext (not_binds_longNumber "k" text)
    · exact .inl rfl
  · intro text htext
    have hget : get { disk := longNumberDisk } "k" = getIn longNumberDisk "k" ["en"] := rfl
    rw [hget, getIn_eq_ok current_of_roots] at htext
    rcases htext with _ | ⟨hlegible, -⟩ | ⟨hlegible, -, -⟩
    · exact not_legible_longNumberDisk hlegible
    · exact not_legible_longNumberDisk hlegible

end Catalog

end TestSkeleton
