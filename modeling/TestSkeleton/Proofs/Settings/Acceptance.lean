import TestSkeleton.Proofs.Settings.Faults

/-!
# What a settings table may hold

The settings that a table describes, as a relation: under each key stands a value of the right kind,
or nothing, which counts as the default. A table that breaks this is reported with a problem that it
has. Only the texts of descriptors are not checked; a table in which one is missing meets a fault.

Specification: `SPEC_FULL.md:205–214`.
-/

namespace TestSkeleton.Settings

open Outcome (FirstWith)

/-- The keys of the settings that are texts. -/
def textKeys : List String := ["output_path", "line_separator", "framework", "file_extension"]

/-- The keys of all settings. -/
def keys : List String := textKeys ++ ["descriptors", "variants_per_method"]

/-- A table that passes its checks: texts, a list and a number that is not negative, each of which
may be left out. -/
structure Acceptable (entries : List (Value × Value)) : Prop where
  texts : ∀ key ∈ textKeys, ∀ v, Value.get? entries key = some v → ∃ text, v = .text text
  descriptors : ∀ v, Value.get? entries "descriptors" = some v → ∃ items, v.items? = some items
  variants : ∀ v, Value.get? entries "variants_per_method" = some v → ∃ n : Nat, v = .int n
  lineSeparator : Value.get? entries "line_separator" ≠ some (.text "")

/-- Every descriptor in the list of a table has a text. -/
def Displayable (entries : List (Value × Value)) : Prop :=
  ∀ v items, Value.get? entries "descriptors" = some v → v.items? = some items →
    ∀ item ∈ items, ∃ text, item.shown = .ok text

/-- What a key gives: what its value is read as, or a default where the key is left out. -/
inductive Gives {α : Type} (entries : List (Value × Value)) (key : String) (default : α)
    (reads : Value → α → Prop) : α → Prop
  | leftOut (hkey : Value.get? entries key = none) : Gives entries key default reads default
  | given {v : Value} {a : α} (hkey : Value.get? entries key = some v) (hreads : reads v a) :
      Gives entries key default reads a

/-- A value is a text. -/
def IsText (v : Value) (text : String) : Prop := v = .text text

/-- A value is a whole number that is not negative. -/
def IsCount (v : Value) (n : Nat) : Prop := v = .int n

/-- A value is a list of items. -/
def IsList (v : Value) (items : List Value) : Prop := v.items? = some items

/-- A value is a list of items with some texts, one for each in their order. -/
def ListsTexts (v : Value) (texts : List String) : Prop :=
  ∃ items, IsList v items ∧ List.Forall₂ (fun item text => item.shown = .ok text) items texts

/-- The settings that a table describes. -/
structure Describes (entries : List (Value × Value)) (s : Settings) : Prop where
  outputPath : Gives entries "output_path" standard.outputPath IsText s.outputPath
  lineSeparator : Gives entries "line_separator" standard.lineSeparator IsText s.lineSeparator
  framework : Gives entries "framework" standard.framework IsText s.framework
  fileExtension : Gives entries "file_extension" standard.fileExtension IsText s.fileExtension
  descriptors : Gives entries "descriptors" standard.descriptors ListsTexts s.descriptors
  variants : Gives entries "variants_per_method" standard.variants IsCount s.variants

/-- A problem that a table has. -/
inductive HasProblem (entries : List (Value × Value)) : SettingsProblem → Prop
  | text {key : String} {v : Value} (hkey : key ∈ textKeys) (hv : Value.get? entries key = some v)
      (hkind : ∀ text, v ≠ .text text) : HasProblem entries (.wrongType key "str" v.kindName)
  | list {v : Value} (hv : Value.get? entries "descriptors" = some v) (hkind : v.items? = none) :
      HasProblem entries (.wrongType "descriptors" "list" v.kindName)
  | variants {v : Value} (hv : Value.get? entries "variants_per_method" = some v)
      (hkind : ∀ i, v ≠ .int i) : HasProblem entries .variantsNotInteger
  | negative {i : Int} (hv : Value.get? entries "variants_per_method" = some (.int i))
      (hnegative : i < 0) : HasProblem entries (.negativeVariants i)
  | lineSeparator (hv : Value.get? entries "line_separator" = some (.text "")) :
      HasProblem entries .emptyLineSeparator

variable {entries : List (Value × Value)} {problem : SettingsProblem}

/-! ### The checks of single keys -/

/-- A key that is not there gives its default. -/
theorem gives_of_none {α : Type} {key : String} {default a : α} {reads : Value → α → Prop}
    (hkey : Value.get? entries key = none) : Gives entries key default reads a ↔ a = default := by
  constructor
  · intro h
    cases h with
    | leftOut _ => rfl
    | given hkey' _ => rw [hkey] at hkey'; cases hkey'
  · rintro rfl
    exact .leftOut hkey

/-- A key that is there gives what its value is read as. -/
theorem gives_of_some {α : Type} {key : String} {default a : α} {reads : Value → α → Prop}
    {v : Value} (hkey : Value.get? entries key = some v) :
    Gives entries key default reads a ↔ reads v a := by
  constructor
  · intro h
    cases h with
    | leftOut hkey' => rw [hkey] at hkey'; cases hkey'
    | given hkey' hreads =>
      rw [hkey] at hkey'
      cases hkey'
      exact hreads
  · exact .given hkey

/-- What a key gives is what its value is read as. -/
theorem Gives.reads {α : Type} {key : String} {default a : α} {reads : Value → α → Prop} {v : Value}
    (h : Gives entries key default reads a) (hkey : Value.get? entries key = some v) : reads v a :=
  (gives_of_some hkey).mp h

private theorem textOf_eq_ok {key default text : String} :
    textOf entries key default = .ok text ↔ Gives entries key default IsText text := by
  rw [textOf]
  cases hkey : Value.get? entries key with
  | none => simp only [gives_of_none hkey, Except.ok.injEq, eq_comm]
  | some v =>
    rw [gives_of_some hkey, IsText]
    cases v <;> simp

private theorem textOf_eq_error {key default : String}
    (h : textOf entries key default = .error problem) :
    ∃ v, Value.get? entries key = some v ∧ (∀ text, v ≠ .text text) ∧
      problem = .wrongType key "str" v.kindName := by
  rw [textOf] at h
  split at h
  · cases h
  · cases h
  · next v hnot hkey =>
    cases h
    exact ⟨v, hkey, hnot, rfl⟩

private theorem itemsOf_eq_ok {key : String} {default : List String} {items : List Value} :
    itemsOf entries key default = .ok items ↔
      Gives entries key (default.map .text) IsList items := by
  rw [itemsOf]
  cases hkey : Value.get? entries key with
  | none => simp only [gives_of_none hkey, Except.ok.injEq, eq_comm]
  | some v =>
    rw [gives_of_some hkey, IsList]
    dsimp only
    cases v.items? <;> simp

private theorem itemsOf_eq_error {key : String} {default : List String}
    (h : itemsOf entries key default = .error problem) :
    ∃ v, Value.get? entries key = some v ∧ v.items? = none ∧
      problem = .wrongType key "list" v.kindName := by
  rw [itemsOf] at h
  split at h
  · cases h
  · next v hkey =>
    split at h
    · cases h
    · next hnone =>
      cases h
      exact ⟨v, hkey, hnone, rfl⟩

private theorem variantsOf_eq_ok {default n : Nat} :
    variantsOf entries default = .ok n ↔
      Gives entries "variants_per_method" default IsCount n := by
  rw [variantsOf]
  cases hkey : Value.get? entries "variants_per_method" with
  | none => simp only [gives_of_none hkey, Except.ok.injEq, eq_comm]
  | some v =>
    rw [gives_of_some hkey, IsCount]
    cases v with
    | int i =>
      simp only [Value.int.injEq]
      split
      · next hneg => exact ⟨nofun, fun h => by omega⟩
      · next hneg =>
        rw [Except.ok.injEq]
        omega
    | _ => simp

private theorem variantsOf_eq_error {default : Nat} (h : variantsOf entries default = .error problem) :
    HasProblem entries problem := by
  rw [variantsOf] at h
  split at h
  · cases h
  · next i hkey =>
    split at h
    · next hneg =>
      cases h
      exact .negative hkey hneg
    · cases h
  · next v hnot hkey =>
    cases h
    exact .variants hkey hnot

/-! ### The checks of a table -/

private theorem check_eq_ok {checked : Checked} :
    check entries = .ok checked ↔
      Gives entries "output_path" standard.outputPath IsText checked.settings.outputPath ∧
      Gives entries "line_separator" standard.lineSeparator IsText
        checked.settings.lineSeparator ∧
      Gives entries "framework" standard.framework IsText checked.settings.framework ∧
      Gives entries "file_extension" standard.fileExtension IsText
        checked.settings.fileExtension ∧
      Gives entries "descriptors" (standard.descriptors.map .text) IsList checked.descriptors ∧
      Gives entries "variants_per_method" standard.variants IsCount checked.settings.variants ∧
      checked.settings.descriptors = standard.descriptors := by
  simp only [← textOf_eq_ok, ← itemsOf_eq_ok, ← variantsOf_eq_ok]
  constructor
  · intro h
    rw [check] at h
    obtain ⟨outputPath, houtput, h⟩ := Outcome.bind_eq_ok.mp h
    obtain ⟨lineSeparator, hline, h⟩ := Outcome.bind_eq_ok.mp h
    obtain ⟨framework, hframework, h⟩ := Outcome.bind_eq_ok.mp h
    obtain ⟨fileExtension, hextension, h⟩ := Outcome.bind_eq_ok.mp h
    obtain ⟨descriptors, hdescriptors, h⟩ := Outcome.bind_eq_ok.mp h
    obtain ⟨variants, hvariants, h⟩ := Outcome.bind_eq_ok.mp h
    split at h
    · cases h
    · cases h
      exact ⟨houtput, hline, hframework, hextension, hdescriptors, hvariants, rfl⟩
  · obtain ⟨⟨outputPath, texts, variants, lineSeparator, framework, fileExtension, hline_ne⟩,
      descriptors⟩ := checked
    rintro ⟨houtput, hline, hframework, hextension, hdescriptors, hvariants, rfl⟩
    rw [check]
    simp only [houtput, hline, hframework, hextension, hdescriptors, hvariants]
    exact dif_neg hline_ne

private theorem hasProblem_of_check (h : check entries = .error problem) :
    HasProblem entries problem := by
  have htext {key default : String} (hkey : key ∈ textKeys)
      (h : textOf entries key default = .error problem) : HasProblem entries problem := by
    obtain ⟨v, hv, hkind, rfl⟩ := textOf_eq_error h
    exact .text hkey hv hkind
  rw [check] at h
  rcases Outcome.bind_eq_error.mp h with h | ⟨outputPath, -, h⟩
  · exact htext (by decide) h
  rcases Outcome.bind_eq_error.mp h with h | ⟨lineSeparator, hline, h⟩
  · exact htext (by decide) h
  rcases Outcome.bind_eq_error.mp h with h | ⟨framework, -, h⟩
  · exact htext (by decide) h
  rcases Outcome.bind_eq_error.mp h with h | ⟨fileExtension, -, h⟩
  · exact htext (by decide) h
  rcases Outcome.bind_eq_error.mp h with h | ⟨descriptors, -, h⟩
  · obtain ⟨v, hv, hkind, rfl⟩ := itemsOf_eq_error h
    exact .list hv hkind
  rcases Outcome.bind_eq_error.mp h with h | ⟨variants, -, h⟩
  · exact variantsOf_eq_error h
  split at h
  · next hempty =>
    cases h
    have hgives := textOf_eq_ok.mp hline
    rw [hempty] at hgives
    cases hkey : Value.get? entries "line_separator" with
    | none => exact absurd ((gives_of_none hkey).mp hgives) (by decide)
    | some v =>
      obtain rfl : v = .text "" := hgives.reads hkey
      exact .lineSeparator hkey
  · cases h

/-- A table with a problem does not pass. -/
theorem HasProblem.not_acceptable (h : HasProblem entries problem) : ¬ Acceptable entries := by
  intro hok
  cases h with
  | text hkey hv hkind =>
    obtain ⟨text, htext⟩ := hok.texts _ hkey _ hv
    exact hkind text htext
  | list hv hkind =>
    obtain ⟨items, hitems⟩ := hok.descriptors _ hv
    rw [hkind] at hitems
    cases hitems
  | variants hv hkind =>
    obtain ⟨n, hn⟩ := hok.variants _ hv
    exact hkind n hn
  | negative hv hnegative =>
    obtain ⟨n, hn⟩ := hok.variants _ hv
    cases hn
    omega
  | lineSeparator hv => exact hok.lineSeparator hv

private theorem exists_check_eq_ok : (∃ checked, check entries = .ok checked) ↔ Acceptable entries := by
  constructor
  · rintro ⟨checked, hcheck⟩
    obtain ⟨houtput, hline, hframework, hextension, hdescriptors, hvariants, -⟩ :=
      check_eq_ok.mp hcheck
    refine ⟨?_, ?_, ?_, ?_⟩
    · intro key hkey v hv
      simp only [textKeys, List.mem_cons, List.not_mem_nil, or_false] at hkey
      rcases hkey with rfl | rfl | rfl | rfl
      · exact ⟨_, houtput.reads hv⟩
      · exact ⟨_, hline.reads hv⟩
      · exact ⟨_, hframework.reads hv⟩
      · exact ⟨_, hextension.reads hv⟩
    · exact fun v hv => ⟨_, hdescriptors.reads hv⟩
    · exact fun v hv => ⟨_, hvariants.reads hv⟩
    · intro hempty
      have htext : IsText (.text "") checked.settings.lineSeparator := hline.reads hempty
      exact checked.settings.lineSeparator_ne_empty (Value.text.inj htext).symm
  · intro hok
    cases hcheck : check entries with
    | ok checked => exact ⟨checked, rfl⟩
    | error problem => exact absurd hok (hasProblem_of_check hcheck).not_acceptable

/-! ### The settings of a table -/

private theorem ofEntries_eq_settings :
    ofEntries entries = .error (.settings problem) ↔ check entries = .error problem := by
  rw [ofEntries, Outcome.bind_eq_error]
  constructor
  · rintro (h | ⟨checked, -, h⟩)
    · obtain ⟨problem', hcheck, hproblem⟩ := Outcome.mapError_eq_error.mp h
      cases hproblem
      exact hcheck
    · rcases Outcome.bind_eq_error.mp h with h | ⟨texts, -, h⟩
      · obtain ⟨f, -, hf⟩ := Outcome.mapError_eq_error.mp h
        cases hf
      · cases h
  · exact fun h => .inl (Outcome.mapError_eq_error.mpr ⟨problem, h, rfl⟩)

/-- A table that is reported has the problem that the report names. -/
theorem hasProblem_of_ofEntries (h : ofEntries entries = .error (.settings problem)) :
    HasProblem entries problem :=
  hasProblem_of_check (ofEntries_eq_settings.mp h)

private theorem ofEntries_eq_error {e : Failure} (h : ofEntries entries = .error e) :
    (∃ problem, e = .settings problem) ∨ ∃ f, e = .fault f := by
  rcases Outcome.bind_eq_error.mp h with h | ⟨checked, -, h⟩
  · obtain ⟨problem, -, rfl⟩ := Outcome.mapError_eq_error.mp h
    exact .inl ⟨problem, rfl⟩
  · rcases Outcome.bind_eq_error.mp h with h | ⟨texts, -, h⟩
    · obtain ⟨f, -, rfl⟩ := Outcome.mapError_eq_error.mp h
      exact .inr ⟨f, rfl⟩
    · cases h

private theorem ofEntries_eq_ok {s : Settings} :
    ofEntries entries = .ok s ↔
      ∃ checked texts, check entries = .ok checked ∧
        checked.descriptors.mapM Value.shown = .ok texts ∧
        { checked.settings with descriptors := texts } = s := by
  rw [ofEntries, Outcome.bind_eq_ok]
  constructor
  · rintro ⟨checked, hcheck, h⟩
    obtain ⟨texts, htexts, h⟩ := Outcome.bind_eq_ok.mp h
    cases h
    exact ⟨checked, texts, Outcome.mapError_eq_ok.mp hcheck, Failure.ofFault_eq_ok.mp htexts, rfl⟩
  · rintro ⟨checked, texts, hcheck, htexts, rfl⟩
    exact ⟨checked, Outcome.mapError_eq_ok.mpr hcheck,
      Outcome.bind_eq_ok.mpr ⟨texts, Failure.ofFault_eq_ok.mpr htexts, rfl⟩⟩

private theorem forall₂_shown_texts {default texts : List String} :
    List.Forall₂ (fun item text => Value.shown item = .ok text) (default.map .text) texts ↔
      texts = default := by
  rw [List.forall₂_map_left_iff]
  simp only [Value.shown_text, Except.ok.injEq, List.forall₂_eq_eq_eq, eq_comm]

private theorem gives_listsTexts {key : String} {default texts : List String} :
    Gives entries key default ListsTexts texts ↔
      ∃ items, Gives entries key (default.map .text) IsList items ∧
        items.mapM Value.shown = .ok texts := by
  simp only [Outcome.mapM_eq_ok]
  cases hkey : Value.get? entries key with
  | none => simp only [gives_of_none hkey, exists_eq_left, forall₂_shown_texts]
  | some v => simp only [gives_of_some hkey, ListsTexts]

private theorem ofEntries_eq_ok_iff_describes {s : Settings} :
    ofEntries entries = .ok s ↔ Describes entries s := by
  rw [ofEntries_eq_ok]
  constructor
  · rintro ⟨checked, texts, hcheck, htexts, rfl⟩
    obtain ⟨houtput, hline, hframework, hextension, hdescriptors, hvariants, -⟩ :=
      check_eq_ok.mp hcheck
    exact ⟨houtput, hline, hframework, hextension, gives_listsTexts.mpr ⟨_, hdescriptors, htexts⟩,
      hvariants⟩
  · rintro ⟨houtput, hline, hframework, hextension, hdescriptors, hvariants⟩
    obtain ⟨items, hitems, htexts⟩ := gives_listsTexts.mp hdescriptors
    refine ⟨⟨{ s with descriptors := standard.descriptors }, items⟩, s.descriptors, ?_, htexts, rfl⟩
    exact check_eq_ok.mpr ⟨houtput, hline, hframework, hextension, hitems, hvariants, rfl⟩

private theorem ofEntries_congr {other : List (Value × Value)}
    (h : ∀ key ∈ keys, Value.get? other key = Value.get? entries key) :
    ofEntries other = ofEntries entries := by
  have htext {key default : String} (hkey : key ∈ keys) :
      textOf other key default = textOf entries key default := by
    rw [textOf, textOf, h key hkey]
  have hitems {default : List String} :
      itemsOf other "descriptors" default = itemsOf entries "descriptors" default := by
    rw [itemsOf, itemsOf, h "descriptors" (by decide)]
  have hvariants {default : Nat} : variantsOf other default = variantsOf entries default := by
    rw [variantsOf, variantsOf, h "variants_per_method" (by decide)]
  have hcheck : check other = check entries := by
    rw [check, check, htext (by decide), htext (by decide), htext (by decide), htext (by decide),
      hitems, hvariants]
  rw [ofEntries, ofEntries, hcheck]

private theorem descriptors_of_check {checked : Checked} (hcheck : check entries = .ok checked) :
    Value.get? entries "descriptors" = none ∧
        checked.descriptors.mapM Value.shown = .ok standard.descriptors ∨
      ∃ v, Value.get? entries "descriptors" = some v ∧ v.items? = some checked.descriptors := by
  obtain ⟨-, -, -, -, hdescriptors, -⟩ := check_eq_ok.mp hcheck
  cases hkey : Value.get? entries "descriptors" with
  | none =>
    refine .inl ⟨rfl, ?_⟩
    rw [(gives_of_none hkey).mp hdescriptors, Outcome.mapM_eq_ok, forall₂_shown_texts]
  | some v => exact .inr ⟨v, rfl, hdescriptors.reads hkey⟩

private theorem descriptors_eq_ok {checked : Checked} (hcheck : check entries = .ok checked) :
    (∃ texts, checked.descriptors.mapM Value.shown = .ok texts) ↔ Displayable entries := by
  rcases descriptors_of_check hcheck with ⟨hkey, htexts⟩ | ⟨v, hkey, hitems⟩
  · simp [Displayable, htexts, hkey]
  · rw [Outcome.exists_mapM_eq_ok]
    constructor
    · intro h v' items hv' hitems'
      cases hkey.symm.trans hv'
      cases hitems.symm.trans hitems'
      exact h
    · exact fun h => h v _ hkey hitems

private theorem descriptors_eq_error {checked : Checked} {f : Fault}
    (hcheck : check entries = .ok checked) :
    checked.descriptors.mapM Value.shown = .error f ↔
      ∃ v items, Value.get? entries "descriptors" = some v ∧ v.items? = some items ∧
        FirstWith Value.shown (fun item => item.shown = .error f) items := by
  rcases descriptors_of_check hcheck with ⟨hkey, htexts⟩ | ⟨v, hkey, hitems⟩
  · simp [htexts, hkey]
  · simp [hkey, hitems, ← Outcome.mapM_eq_error_iff fun _ => Iff.rfl]

/-- A table gives settings exactly if it is acceptable and its descriptors have texts; they are the
ones that it describes. It is reported exactly if it is not acceptable, with a problem that it has,
and meets a fault exactly if it is acceptable and the first descriptor that has no text lacks it for
that fault. Keys that no setting has do not matter. -/
theorem ofEntries_accepts (entries : List (Value × Value)) :
    ((∃ s, ofEntries entries = .ok s) ↔ Acceptable entries ∧ Displayable entries) ∧
    (∀ s, ofEntries entries = .ok s ↔ Describes entries s) ∧
    ((∃ problem, ofEntries entries = .error (.settings problem)) ↔ ¬ Acceptable entries) ∧
    (∀ problem, ofEntries entries = .error (.settings problem) → HasProblem entries problem) ∧
    (∀ e, ofEntries entries = .error e → (∃ problem, e = .settings problem) ∨ ∃ f, e = .fault f) ∧
    (∀ f, ofEntries entries = .error (.fault f) ↔
      Acceptable entries ∧
        ∃ v items, Value.get? entries "descriptors" = some v ∧ v.items? = some items ∧
          FirstWith Value.shown (fun item => item.shown = .error f) items) ∧
    ∀ other, (∀ key ∈ keys, Value.get? other key = Value.get? entries key) →
      ofEntries other = ofEntries entries := by
  refine ⟨?_, fun s => ofEntries_eq_ok_iff_describes, ?_, ?_, ?_, ?_, fun other => ofEntries_congr⟩
  · rw [← exists_check_eq_ok]
    constructor
    · rintro ⟨s, hs⟩
      obtain ⟨checked, texts, hcheck, htexts, -⟩ := ofEntries_eq_ok.mp hs
      exact ⟨⟨checked, hcheck⟩, (descriptors_eq_ok hcheck).mp ⟨texts, htexts⟩⟩
    · rintro ⟨⟨checked, hcheck⟩, htexts⟩
      obtain ⟨texts, htexts⟩ := (descriptors_eq_ok hcheck).mpr htexts
      exact ⟨_, ofEntries_eq_ok.mpr ⟨checked, texts, hcheck, htexts, rfl⟩⟩
  · simp only [ofEntries_eq_settings, ← exists_check_eq_ok]
    cases check entries <;> simp
  · exact fun problem => hasProblem_of_ofEntries
  · exact fun e => ofEntries_eq_error
  · intro f
    rw [ofEntries_eq_fault, ← exists_check_eq_ok]
    constructor
    · rintro ⟨checked, hcheck, hshown⟩
      exact ⟨⟨checked, hcheck⟩, (descriptors_eq_error hcheck).mp hshown⟩
    · rintro ⟨⟨checked, hcheck⟩, hfirst⟩
      exact ⟨checked, hcheck, (descriptors_eq_error hcheck).mpr hfirst⟩

/-- A descriptor that is a whole number with too many digits is not reported, though the table is
acceptable. -/
theorem acceptable_longDescriptor :
    ∃ entries, Acceptable entries ∧ ofEntries entries = .error (.fault .badValue) := by
  let long : Value := .int (Int.ofNat (Nat.pow 16 3600))
  have hlong : long.shown = .error .badValue := by
    have hfault : long.fault? = some .badValue := by decide +kernel
    rw [Value.shown, hfault]
  have hacceptable : Acceptable [(.text "descriptors", .list [long])] := by
    refine ⟨?_, ?_, nofun, nofun⟩
    · intro key hkey v hv
      simp only [textKeys, List.mem_cons, List.not_mem_nil, or_false] at hkey
      rcases hkey with rfl | rfl | rfl | rfl <;> cases hv
    · rintro v ⟨⟩
      exact ⟨_, rfl⟩
  obtain ⟨checked, hcheck⟩ := exists_check_eq_ok.mpr hacceptable
  refine ⟨_, hacceptable, ofEntries_eq_fault.mpr ⟨checked, hcheck, ?_⟩⟩
  exact (descriptors_eq_error hcheck).mpr ⟨_, _, rfl, rfl, [], long, [], rfl, nofun, hlong⟩

end TestSkeleton.Settings
