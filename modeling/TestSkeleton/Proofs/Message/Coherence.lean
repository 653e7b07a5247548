import Mathlib.Data.List.Induction
import TestSkeleton.Proofs.Message.Priority

/-!
# Coherence of the kept tables

What a catalog answers after any course of lookups, new roots, resets, and changes of the files and
of the environment. A table is the one that its roots had on the disk when the language was first
needed, and could be read, since tables were last dropped.

Specification: `SPEC_FULL.md:221–224`.
-/

namespace TestSkeleton.Catalog

/-- A lookup by key looks into the table of the language that is asked for, and then into that of
the default language. -/
theorem get_run (l : Locale) (key : String) {language : Option String} {asked : String}
    (h : Asks language l.language asked) (c : Catalog) :
    ((get l key language).run c).1 = inTables (given l.disk c) key [asked, defaultLanguage] ∧
      GrownBy l.disk (NeededIn (given l.disk c) key [asked, defaultLanguage]) c
        ((get l key language).run c).2 := by
  have hget : get l key language = getIn l.disk key
      (if asked = defaultLanguage then [asked] else [asked, defaultLanguage]) := by
    rw [get, firstGiven_of_asks h]
  rw [hget]
  by_cases hasked : asked = defaultLanguage
  · obtain ⟨hanswer, hgrown⟩ := getIn_run l.disk key [asked] c
    rw [if_pos hasked, ← hasked, inTables_pair]
    exact ⟨hanswer, hgrown.congr fun _ => neededIn_pair.symm⟩
  · rw [if_neg hasked]
    exact getIn_run l.disk key [asked, defaultLanguage] c

/-- What happens to a catalog or around it. -/
inductive Event where
  /-- The template of a key is looked up. -/
  | get (key : String) (language : Option String)
  /-- The table of a language is asked for. -/
  | table (language : String)
  | addRoot (root : Root)
  | reset
  /-- The environment asks for another language, or for none. -/
  | setLanguage (language : Option String)
  /-- Files are written, or changed in another way. -/
  | setDisk (disk : Disk)

/-- A catalog in its surroundings. -/
structure Situation where
  locale : Locale
  catalog : Catalog

namespace Situation

/-- A catalog without tables. -/
def ofRoots (locale : Locale) (roots : List Root) : Situation := ⟨locale, { roots }⟩

/-- The table that is given for a language. -/
def table (s : Situation) (language : String) : Except Failure Templates :=
  ((Catalog.table s.locale.disk language).run s.catalog).1

/-- The template that is found for a key. -/
def template (s : Situation) (key : String) (language : Option String := none) :
    Except Failure String :=
  ((Catalog.get s.locale key language).run s.catalog).1

/-- The situation after an event. -/
def step (s : Situation) : Event → Situation
  | .get key language =>
    { s with catalog := ((Catalog.get s.locale key language).run s.catalog).2 }
  | .table language =>
    { s with catalog := ((Catalog.table s.locale.disk language).run s.catalog).2 }
  | .addRoot root => { s with catalog := s.catalog.addRoot root }
  | .reset => { s with catalog := s.catalog.reset }
  | .setLanguage language => { s with locale := { s.locale with language } }
  | .setDisk disk => { s with locale := { s.locale with disk } }

/-- The situation after a course of events. -/
def after (s : Situation) (events : List Event) : Situation := events.foldl step s

/-- An event drops the tables: a reset does, and a root that was not there. -/
inductive Drops (s : Situation) : Event → Prop
  | reset : s.Drops .reset
  | addRoot {root : Root} (h : root ∉ s.catalog.roots) : s.Drops (.addRoot root)

/-- An event needs the table of a language: one that asks for it, or a lookup that comes to it. -/
inductive Needs (s : Situation) : Event → String → Prop
  | table {language : String} : s.Needs (.table language) language
  | get {key asked other : String} {language : Option String}
      (hasked : Asks language s.locale.language asked)
      (h : NeededIn s.table key [asked, defaultLanguage] other) : s.Needs (.get key language) other

/-- An event needs a language, and its table can be read. -/
def Reads (s : Situation) (e : Event) (language : String) : Prop :=
  s.Needs e language ∧ Legible s.locale.disk s.catalog.roots language

/-- No event of a course drops the tables. -/
inductive Quiet : Situation → List Event → Prop
  | nil {s : Situation} : Quiet s []
  | cons {s : Situation} {e : Event} {events : List Event} (h : ¬ s.Drops e)
      (hrest : Quiet (s.step e) events) : Quiet s (e :: events)

/-- A course is cut where tables were last dropped, or at its start. -/
structure CutAtDrop (s : Situation) (old recent : List Event) : Prop where
  drops : old = [] ∨ ∃ init e, old = init ++ [e] ∧ (s.after init).Drops e
  quiet : (s.after old).Quiet recent

/-- The disk that the table of a language comes from: as it was when the language was first needed
and could be read, or as it is now if that has not been the case before. -/
inductive Origin (language : String) : Situation → List Event → Disk → Prop
  | now {s : Situation} : Origin language s [] s.locale.disk
  | first {s : Situation} {e : Event} {events : List Event} (h : s.Reads e language) :
      Origin language s (e :: events) s.locale.disk
  | later {s : Situation} {e : Event} {events : List Event} {disk : Disk}
      (h : ¬ s.Reads e language) (hrest : Origin language (s.step e) events disk) :
      Origin language s (e :: events) disk

variable {s : Situation} {e : Event} {events events' : List Event} {language key : String}
  {t : Templates} {root : Root}

/-- Events take effect one after the other. -/
theorem after_append (s : Situation) (events events' : List Event) :
    s.after (events ++ events') = (s.after events).after events' :=
  List.foldl_append

/-! ### One event -/

/-- A template comes from the table of the language asked for, or from the default one. -/
theorem template_eq {asked : String} {l : Option String} (h : Asks l s.locale.language asked) :
    s.template key l = inTables s.table key [asked, defaultLanguage] :=
  (get_run s.locale key h s.catalog).1

/-- A catalog without tables gives the table that its roots have on the disk. -/
theorem table_ofRoots (locale : Locale) (roots : List Root) (language : String) :
    (ofRoots locale roots).table language = fresh locale.disk roots language :=
  given_of_unread rfl

/-- An event that does not drop the tables adds those that it needs and that can be read. -/
theorem grownBy_step (h : ¬ s.Drops e) :
    GrownBy s.locale.disk (s.Needs e) s.catalog (s.step e).catalog := by
  cases e with
  | get key l =>
    have hasked := asks_firstGiven l s.locale.language
    refine (get_run s.locale key hasked s.catalog).2.congr fun language => ⟨.get hasked, ?_⟩
    rintro ⟨⟩
    next hasked' hneeded =>
      rw [firstGiven_of_asks hasked']
      exact hneeded
  | table l =>
    refine (grownBy_table s.locale.disk l s.catalog).congr fun language => ⟨?_, ?_⟩
    · rintro rfl
      exact .table
    · rintro ⟨⟩
      rfl
  | addRoot root =>
    have hroot : root ∈ s.catalog.roots := Decidable.byContradiction fun hroot => h (.addRoot hroot)
    have hsame : s.catalog.addRoot root = s.catalog := if_pos hroot
    rw [step, hsame]
    exact .refl nofun
  | reset => exact absurd .reset h
  | setLanguage l => exact .refl nofun
  | setDisk disk => exact .refl nofun

/-- A dropped table is gone. -/
theorem tables_step_of_drops (h : s.Drops e) : (s.step e).catalog.tables = [] := by
  cases h with
  | reset => rfl
  | addRoot hroot =>
    rw [step, Catalog.addRoot, if_neg hroot]

/-- An event that needs a language whose table can be read leaves the table behind. -/
theorem lookup_step_of_reads (h : ¬ s.Drops e) (hreads : s.Reads e language)
    (hunread : s.catalog.tables.lookup language = none) :
    ∃ t, fresh s.locale.disk s.catalog.roots language = .ok t ∧
      (s.step e).catalog.tables.lookup language = some t := by
  obtain ⟨t, ht⟩ := exists_fresh_eq_ok.mpr hreads.2
  exact ⟨t, ht, ((grownBy_step h).tables language t).mpr (.inr ⟨hunread, hreads.1, ht⟩)⟩

/-- Any other event leaves no table of the language behind. -/
theorem lookup_step_of_not_reads (h : ¬ s.Drops e) (hreads : ¬ s.Reads e language)
    (hunread : s.catalog.tables.lookup language = none) :
    (s.step e).catalog.tables.lookup language = none := by
  refine Option.eq_none_iff_forall_ne_some.mpr fun t ht => ?_
  rcases ((grownBy_step h).tables language t).mp ht with hkept | ⟨-, hneeds, hfresh⟩
  · rw [hunread] at hkept
    cases hkept
  · exact hreads ⟨hneeds, exists_fresh_eq_ok.mp ⟨t, hfresh⟩⟩

/-! ### Courses without a drop -/

/-- Quiet events after quiet events are quiet. -/
theorem Quiet.append (h : s.Quiet events) (h' : (s.after events).Quiet events') :
    s.Quiet (events ++ events') := by
  induction h with
  | nil => exact h'
  | cons hdrops _ ih => exact .cons hdrops (ih h')

/-- Quiet events add no root. -/
theorem Quiet.roots (h : s.Quiet events) : (s.after events).catalog.roots = s.catalog.roots := by
  induction h with
  | nil => rfl
  | cons hdrops _ ih => exact ih.trans (grownBy_step hdrops).roots

/-- A table that is there stays there. -/
theorem Quiet.lookup_after (h : s.Quiet events)
    (ht : s.catalog.tables.lookup language = some t) :
    (s.after events).catalog.tables.lookup language = some t := by
  induction h with
  | nil => exact ht
  | cons hdrops _ ih => exact ih (((grownBy_step hdrops).tables language t).mpr (.inl ht))

/-- A language that has not been read at first has the table of its origin in the end. -/
theorem Quiet.table_after (h : s.Quiet events)
    (hunread : s.catalog.tables.lookup language = none) :
    ∃ disk, Origin language s events disk ∧
      (s.after events).table language = fresh disk s.catalog.roots language := by
  induction h with
  | nil => exact ⟨_, .now, given_of_unread hunread⟩
  | @cons s e events hdrops hquiet ih =>
    -- the first event that reads the language decides; until then there is no table of it
    by_cases hreads : s.Reads e language
    · obtain ⟨t, hfresh, ht⟩ := lookup_step_of_reads hdrops hreads hunread
      refine ⟨s.locale.disk, .first hreads, ?_⟩
      rw [hfresh]
      exact given_of_lookup (hquiet.lookup_after ht)
    · obtain ⟨disk, horigin, htable⟩ := ih (lookup_step_of_not_reads hdrops hreads hunread)
      rw [(grownBy_step hdrops).roots] at htable
      exact ⟨disk, .later hreads horigin, htable⟩

/-- Every course can be cut where tables were last dropped. -/
theorem exists_cutAtDrop (s : Situation) (events : List Event) :
    ∃ old recent, events = old ++ recent ∧ s.CutAtDrop old recent := by
  -- an event at the end either drops the tables, or the cut stays where it was before it
  induction events using List.reverseRecOn with
  | nil => exact ⟨[], [], rfl, .inl rfl, .nil⟩
  | append_singleton events e ih =>
    by_cases hdrops : (s.after events).Drops e
    · exact ⟨events ++ [e], [], (List.append_nil _).symm, .inr ⟨events, e, rfl, hdrops⟩, .nil⟩
    · obtain ⟨old, recent, rfl, hold, hquiet⟩ := ih
      refine ⟨old, recent ++ [e], List.append_assoc _ _ _, hold, hquiet.append ?_⟩
      rw [after_append] at hdrops
      exact .cons hdrops .nil

/-- Where a course is cut there are no tables. -/
theorem CutAtDrop.tables {locale : Locale} {roots : List Root} {old recent : List Event}
    (h : (ofRoots locale roots).CutAtDrop old recent) :
    ((ofRoots locale roots).after old).catalog.tables = [] := by
  rcases h.drops with rfl | ⟨init, e, rfl, hdrops⟩
  · rfl
  · rw [after_append]
    exact tables_step_of_drops hdrops

/-! ### Courses without changes of files -/

/-- An event that does not change the disk leaves it. -/
theorem disk_step (h : ∀ disk, e ≠ .setDisk disk) : (s.step e).locale.disk = s.locale.disk := by
  cases e with
  | setDisk disk => exact absurd rfl (h disk)
  | _ => rfl

/-- Events that do not change the disk leave it. -/
theorem disk_after (h : ∀ disk, .setDisk disk ∉ events) :
    (s.after events).locale.disk = s.locale.disk := by
  induction events generalizing s with
  | nil => rfl
  | cons e events ih =>
    have hstep : (s.step e).locale.disk = s.locale.disk :=
      disk_step fun disk he => h disk (he ▸ List.mem_cons_self)
    exact (ih fun disk hmem => h disk (List.mem_cons_of_mem _ hmem)).trans hstep

/-- Without changes of files there is one disk that tables can come from. -/
theorem Origin.eq_disk {disk : Disk} (h : Origin language s events disk)
    (hfiles : ∀ disk, .setDisk disk ∉ events) : disk = s.locale.disk := by
  induction h with
  | now => rfl
  | first _ => rfl
  | later _ _ ih =>
    rw [ih fun disk hmem => hfiles disk (List.mem_cons_of_mem _ hmem)]
    exact disk_step fun disk he => hfiles disk (he ▸ List.mem_cons_self)

/-! ### New roots -/

/-- Adding a root that is there changes nothing. -/
theorem step_addRoot_of_mem (h : root ∈ s.catalog.roots) : s.step (.addRoot root) = s := by
  rw [step, Catalog.addRoot, if_pos h]

/-- A new root comes first and drops all tables. -/
theorem catalog_step_addRoot (h : root ∉ s.catalog.roots) :
    (s.step (.addRoot root)).catalog = { roots := root :: s.catalog.roots } :=
  if_neg h

/-- With a new root a table has the templates of this root below those of the others. -/
theorem table_step_addRoot (h : root ∉ s.catalog.roots) (language : String) :
    (s.step (.addRoot root)).table language =
      (ofRoots s.locale [root]).table language >>= fun own =>
        ((ofRoots s.locale s.catalog.roots).table language).map (Templates.merge own) := by
  have hunread : (s.step (.addRoot root)).catalog.tables.lookup language = none := by
    rw [catalog_step_addRoot h]
    rfl
  have htable : (s.step (.addRoot root)).table language =
      fresh s.locale.disk (s.step (.addRoot root)).catalog.roots language := given_of_unread hunread
  rw [htable, catalog_step_addRoot h, fresh_cons, table_ofRoots, table_ofRoots]

/-- After any course of events a catalog gives, for each language, the table that its present roots
had when the language was first needed and could be read, since tables were last dropped. Templates
are looked up in these tables. A root that is there already changes nothing. Any other root comes
first; unless files have changed, the templates of a language that is legible stay as they are, and
those of the new root are found below them if all of them can be read. -/
theorem after_coherent (locale : Locale) (roots : List Root) (events : List Event) :
    let start := ofRoots locale roots
    let s := start.after events
    (∃ old recent, events = old ++ recent ∧ start.CutAtDrop old recent ∧
      ∀ language, ∃ disk, Origin language (start.after old) recent disk ∧
        ((∀ disk', .setDisk disk' ∉ recent) → disk = s.locale.disk) ∧
        s.table language = (ofRoots { disk } s.catalog.roots).table language) ∧
    (∀ key language, ∃ asked, Asks language s.locale.language asked ∧
      s.template key language = inTables s.table key [asked, defaultLanguage]) ∧
    (∀ root ∈ s.catalog.roots, s.step (.addRoot root) = s) ∧
    ∀ root ∉ s.catalog.roots,
      (s.step (.addRoot root)).catalog.roots = root :: s.catalog.roots ∧
      ∀ language t, s.table language = .ok t →
        (ofRoots s.locale s.catalog.roots).table language = .ok t →
        (∀ e, (ofRoots s.locale [root]).table language = .error e →
          (s.step (.addRoot root)).table language = .error e) ∧
        ∀ own, (ofRoots s.locale [root]).table language = .ok own →
          ∃ t', (s.step (.addRoot root)).table language = .ok t' ∧
            ∀ key, t'.lookup key = (t.lookup key).or (own.lookup key) := by
  intro start s
  refine ⟨?_, fun key language => ?_, fun root hroot => step_addRoot_of_mem hroot,
    fun root hroot => ⟨congrArg Catalog.roots (catalog_step_addRoot hroot), ?_⟩⟩
  · obtain ⟨old, recent, hevents, hcut⟩ := exists_cutAtDrop start events
    have hs : s = (start.after old).after recent := by
      rw [← after_append, ← hevents]
    refine ⟨old, recent, hevents, hcut, fun language => ?_⟩
    have hunread : (start.after old).catalog.tables.lookup language = none := by
      rw [hcut.tables]
      rfl
    obtain ⟨disk, horigin, htable⟩ := hcut.quiet.table_after hunread
    refine ⟨disk, horigin, fun hfiles => ?_, ?_⟩
    · rw [horigin.eq_disk hfiles, hs, disk_after hfiles]
    · rw [hs, htable, table_ofRoots, hcut.quiet.roots]
  · exact ⟨_, asks_firstGiven language s.locale.language,
      template_eq (asks_firstGiven language s.locale.language)⟩
  · intro language t _ hfresh
    rw [table_step_addRoot hroot, hfresh]
    refine ⟨fun e he => ?_, fun own hown => ⟨Templates.merge own t, ?_, ?_⟩⟩
    · rw [he]
      rfl
    · rw [hown]
      rfl
    · exact Templates.lookup_merge own t

/-- A root that has a file with a number of too many digits takes away the templates that were found
before. -/
theorem template_lost_with_longNumber :
    let s := (ofRoots { disk := longNumberDisk } [.packaged]).after [.table "en"]
    (∃ text, s.template "generate.run.start" = .ok text) ∧ ∀ text,
      (s.step (.addRoot (.directory (.ofString "/")))).template "generate.run.start" ≠
        .ok text := by
  intro s
  have hasked : Asks none s.locale.language "en" := .default nofun nofun
  have hgrown := grownBy_table longNumberDisk "en" { roots := [.packaged] }
  constructor
  · have htable : s.table "en" = .ok Packaged.templates := by
      have hkept : s.table "en" = fresh longNumberDisk [.packaged] "en" :=
        (congrFun hgrown.given_eq "en").trans (given_of_unread rfl)
      have hroot := Packaged.templates_packaged longNumberDisk
      rw [hkept, fresh_eq, List.mapM_cons, List.mapM_nil, ← defaultLanguage, hroot]
      exact congrArg Except.ok (Templates.nil_merge _)
    obtain ⟨text, htext⟩ : ∃ text, Packaged.templates.lookup "generate.run.start" = some text :=
      Option.isSome_iff_exists.mp (by decide +kernel)
    refine ⟨text, ?_⟩
    rw [template_eq hasked, inTables, htable]
    simp only [htext]
  · intro text htext
    have hnew : Root.directory (.ofString "/") ∉ s.catalog.roots := by
      have hroots : s.catalog.roots = [.packaged] := hgrown.roots
      rw [hroots]
      decide
    have hask : Asks none (s.step (.addRoot (.directory (.ofString "/")))).locale.language "en" :=
      hasked
    rw [template_eq hask, inTables, table_step_addRoot hnew, table_ofRoots] at htext
    -- the table of the new root would have to be there
    cases hown : fresh s.locale.disk [.directory (.ofString "/")] "en" with
    | error e =>
      rw [hown] at htext
      cases htext
    | ok own => exact not_legible_longNumberDisk (exists_fresh_eq_ok.mp ⟨own, hown⟩)

end Situation
end TestSkeleton.Catalog
