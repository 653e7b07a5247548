import TestSkeleton.Proofs.Message.Cache

/-!
# Catalogs that grow

A lookup answers from the tables that a catalog gives: those that it keeps, and else those that its
roots have on the disk. It leaves behind all tables that were there, and those of the languages that
it needed and that could be read.
-/

namespace TestSkeleton.Catalog

variable {disk : Disk} {language key : String} {languages : List String} {c c' c'' : Catalog}
  {t : Templates} {needed needed' : String → Prop}

/-- The table that a catalog gives for a language. -/
def given (disk : Disk) (c : Catalog) (language : String) : Except Failure Templates :=
  ((table disk language).run c).1

/-- A catalog has, besides all tables of another one, exactly those of the needed languages that can
be read. -/
structure GrownBy (disk : Disk) (needed : String → Prop) (c c' : Catalog) : Prop where
  roots : c'.roots = c.roots
  tables : ∀ language t, c'.tables.lookup language = some t ↔
    c.tables.lookup language = some t ∨ c.tables.lookup language = none ∧ needed language ∧
      fresh disk c.roots language = .ok t

/-- A table is given as it is kept, or else as the roots have it on the disk. -/
theorem given_eq (disk : Disk) (c : Catalog) (language : String) :
    given disk c language = match c.tables.lookup language with
      | some t => .ok t
      | none => fresh disk c.roots language := by
  rw [given]
  cases hlookup : c.tables.lookup language with
  | some t => rw [table_of_lookup hlookup]
  | none =>
    cases hfresh : fresh disk c.roots language with
    | error e => rw [table_of_error hlookup hfresh]
    | ok t => rw [table_of_fresh hlookup hfresh]

/-- A table that has been read is given as it was read. -/
theorem given_of_lookup (h : c.tables.lookup language = some t) :
    given disk c language = .ok t := by
  rw [given_eq, h]

/-- A table that has not been read is given as the disk has it. -/
theorem given_of_unread (h : c.tables.lookup language = none) :
    given disk c language = fresh disk c.roots language := by
  rw [given_eq, h]

/-- Asking for a table adds that table. -/
theorem grownBy_table (disk : Disk) (language : String) (c : Catalog) :
    GrownBy disk (· = language) c ((table disk language).run c).2 := by
  cases hlookup : c.tables.lookup language with
  | some kept =>
    rw [table_of_lookup hlookup]
    refine ⟨rfl, fun other t => ⟨.inl, ?_⟩⟩
    rintro (h | ⟨hnone, rfl, -⟩)
    · exact h
    · rw [hlookup] at hnone
      cases hnone
  | none =>
    cases hfresh : fresh disk c.roots language with
    | error e =>
      rw [table_of_error hlookup hfresh]
      refine ⟨rfl, fun other t => ⟨.inl, ?_⟩⟩
      rintro (h | ⟨-, rfl, hread⟩)
      · exact h
      · rw [hfresh] at hread
        cases hread
    | ok new =>
      rw [table_of_fresh hlookup hfresh]
      refine ⟨rfl, fun other t => ?_⟩
      by_cases hother : other = language
      · subst hother
        simp [hlookup, hfresh]
      · have hne : (other == language) = false := beq_eq_false_iff_ne.mpr hother
        simp [List.lookup_cons, hne, hother]

/-- Where no table is needed, none is added. -/
theorem GrownBy.refl (h : ∀ language, ¬ needed language) : GrownBy disk needed c c :=
  ⟨rfl, fun language t => by simp [h language]⟩

/-- A catalog gives the same tables after it has grown as before. -/
theorem GrownBy.given_eq (h : GrownBy disk needed c c') : given disk c' = given disk c := by
  funext language
  cases hafter : c'.tables.lookup language with
  | some t =>
    rw [given_of_lookup hafter]
    rcases (h.tables language t).mp hafter with hbefore | ⟨hbefore, -, hread⟩
    · rw [given_of_lookup hbefore]
    · rw [given_of_unread hbefore, hread]
  | none =>
    have hbefore : c.tables.lookup language = none := by
      cases hlookup : c.tables.lookup language with
      | none => rfl
      | some t =>
        rw [(h.tables language t).mpr (.inl hlookup)] at hafter
        cases hafter
    rw [given_of_unread hafter, given_of_unread hbefore, h.roots]

/-- Growing twice adds what is needed either time. -/
theorem GrownBy.trans (h : GrownBy disk needed c c') (h' : GrownBy disk needed' c' c'') :
    GrownBy disk (fun l => needed l ∨ needed' l) c c'' := by
  refine ⟨h'.roots.trans h.roots, fun language t => ?_⟩
  rw [h'.tables, h.tables, h.roots]
  constructor
  · rintro ((hkept | ⟨hnone, hneeded, hread⟩) | ⟨hnone, hneeded, hread⟩)
    · exact .inl hkept
    · exact .inr ⟨hnone, .inl hneeded, hread⟩
    · cases hbefore : c.tables.lookup language with
      | none => exact .inr ⟨rfl, .inr hneeded, hread⟩
      | some t' =>
        rw [(h.tables language t').mpr (.inl hbefore)] at hnone
        cases hnone
  · rintro (hkept | ⟨hnone, hneeded | hneeded, hread⟩)
    · exact .inl (.inl hkept)
    · exact .inl (.inr ⟨hnone, hneeded, hread⟩)
    · -- the language may have been read the first time already
      cases hmid : c'.tables.lookup language with
      | none => exact .inr ⟨rfl, hneeded, hread⟩
      | some t' =>
        rcases (h.tables language t').mp hmid with hkept | ⟨-, hneeded, hread'⟩
        · rw [hnone] at hkept
          cases hkept
        · exact .inl (.inr ⟨hnone, hneeded, hread⟩)

/-- Growth depends only on which tables are needed. -/
theorem GrownBy.congr (h : GrownBy disk needed c c')
    (hiff : ∀ language, needed language ↔ needed' language) : GrownBy disk needed' c c' := by
  refine ⟨h.roots, fun language t => ?_⟩
  rw [h.tables, hiff]

/-! ### Lookups -/

/-- The template of a key in the first of some languages whose table has one. -/
def inTables (tables : String → Except Failure Templates) (key : String) :
    List String → Except Failure String
  | [] => .ok key
  | language :: rest =>
    match tables language with
    | .error e => .error e
    | .ok t =>
      match t.lookup key with
      | some template => .ok template
      | none => inTables tables key rest

/-- The languages that a lookup needs: the first one, and the next one wherever a table does not
have the key. -/
inductive NeededIn (tables : String → Except Failure Templates) (key : String) :
    List String → String → Prop
  | first {language : String} {rest : List String} : NeededIn tables key (language :: rest) language
  | next {language other : String} {rest : List String} {t : Templates}
      (htable : tables language = .ok t) (hkey : t.lookup key = none)
      (h : NeededIn tables key rest other) : NeededIn tables key (language :: rest) other

/-- A lookup answers from the tables that the catalog gives, and adds those that it needs. -/
theorem getIn_run (disk : Disk) (key : String) (languages : List String) (c : Catalog) :
    ((getIn disk key languages).run c).1 = inTables (given disk c) key languages ∧
      GrownBy disk (NeededIn (given disk c) key languages) c
        ((getIn disk key languages).run c).2 := by
  induction languages generalizing c with
  | nil => exact ⟨rfl, .refl nofun⟩
  | cons language rest ih =>
    have hgrown := grownBy_table disk language c
    have hgiven : ((table disk language).run c).1 = given disk c language := rfl
    rw [getIn, RunM.run_bind, inTables]
    rcases hrun : (table disk language).run c with ⟨e | t, mid⟩
    · rw [hrun] at hgrown hgiven
      refine ⟨by rw [← hgiven], hgrown.congr fun other => ⟨?_, ?_⟩⟩
      · rintro rfl
        exact .first
      · rintro (_ | ⟨htable, -, -⟩)
        · rfl
        · rw [← hgiven] at htable
          cases htable
    · rw [hrun] at hgrown hgiven
      rw [← hgiven]
      dsimp only
      cases hkey : t.lookup key with
      | some template =>
        refine ⟨rfl, hgrown.congr fun other => ⟨?_, ?_⟩⟩
        · rintro rfl
          exact .first
        · rintro (_ | ⟨htable, hnone, -⟩)
          · rfl
          · rw [← hgiven] at htable
            cases htable
            rw [hkey] at hnone
            cases hnone
      | none =>
        obtain ⟨hanswer, hrest⟩ := ih mid
        rw [hgrown.given_eq] at hanswer hrest
        refine ⟨hanswer, (hgrown.trans hrest).congr fun other => ⟨?_, ?_⟩⟩
        · rintro (rfl | hneeded)
          · exact .first
          · exact .next hgiven.symm hkey hneeded
        · rintro (_ | ⟨-, -, hneeded⟩)
          · exact .inl rfl
          · exact .inr hneeded

/-- A lookup does not depend on the disk besides the tables that the roots have there. -/
theorem getIn_congr {disk' : Disk}
    (h : ∀ language, fresh disk c.roots language = fresh disk' c.roots language) :
    (getIn disk key languages).run c = (getIn disk' key languages).run c := by
  induction languages generalizing c with
  | nil => rfl
  | cons language rest ih =>
    have htable : (table disk language).run c = (table disk' language).run c := by
      change table disk language c = table disk' language c
      rw [table, table, h]
    have hroots := (grownBy_table disk' language c).roots
    rw [getIn, getIn, RunM.run_bind, RunM.run_bind, htable]
    rcases hrun : (table disk' language).run c with ⟨e | t, mid⟩
    · rfl
    · rw [hrun] at hroots
      rw [← hroots] at h
      dsimp only
      cases t.lookup key with
      | some template => rfl
      | none => exact ih h

/-- To look into one table twice finds what is found in it once. -/
theorem inTables_pair (tables : String → Except Failure Templates) (key language : String) :
    inTables tables key [language, language] = inTables tables key [language] := by
  cases htable : tables language with
  | error e => simp [inTables, htable]
  | ok t => cases hkey : t.lookup key <;> simp [inTables, htable, hkey]

/-- Asking for a language twice needs what asking once does. -/
theorem neededIn_pair {tables : String → Except Failure Templates} {key language other : String} :
    NeededIn tables key [language, language] other ↔ NeededIn tables key [language] other := by
  constructor
  · rintro (_ | ⟨htable, hkey, _ | ⟨-, -, h⟩⟩)
    · exact .first
    · exact .first
    · exact .next htable hkey h
  · rintro (_ | ⟨htable, hkey, h⟩)
    · exact .first
    · cases h

end TestSkeleton.Catalog
