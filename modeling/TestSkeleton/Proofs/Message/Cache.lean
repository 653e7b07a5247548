import TestSkeleton.Message.Catalog
import TestSkeleton.Proofs.Run.Script

/-!
# Tables that are kept

A catalog keeps every table that it has read. So a lookup that has succeeded is repeated without a
look at the disk: it finds the same template in every catalog that has at least the same tables, and
reads no more of them.
-/

namespace TestSkeleton.Catalog

variable {disk : Disk} {language key template : String} {languages : List String}
  {c c' c'' : Catalog} {t : Templates} {result : Except Failure String}

/-- A catalog has all tables of another one. -/
def Keeps (c c' : Catalog) : Prop :=
  ∀ language t, c.tables.lookup language = some t → c'.tables.lookup language = some t

/-- A catalog keeps its own tables. -/
theorem Keeps.refl (c : Catalog) : c.Keeps c := fun _ _ h => h

/-- What is kept twice is kept. -/
theorem Keeps.trans (h : c.Keeps c') (h' : c'.Keeps c'') : c.Keeps c'' :=
  fun language t ht => h' language t (h language t ht)

/-- A table that has been read is not read again. -/
theorem table_of_lookup (h : c.tables.lookup language = some t) :
    (table disk language).run c = (.ok t, c) := by
  change table disk language c = _
  rw [table, h]

/-- A table that has not been read is read and kept. -/
theorem table_of_fresh (h : c.tables.lookup language = none)
    (hfresh : fresh disk c.roots language = .ok t) :
    (table disk language).run c = (.ok t, { c with tables := (language, t) :: c.tables }) := by
  change table disk language c = _
  rw [table, h, hfresh]

/-- A table that cannot be read leaves nothing behind. -/
theorem table_of_error {e : Failure} (h : c.tables.lookup language = none)
    (hfresh : fresh disk c.roots language = .error e) :
    (table disk language).run c = (.error e, c) := by
  change table disk language c = _
  rw [table, h, hfresh]

/-- Asking for a table keeps all others, and the table is kept as well. -/
theorem table_keeps (disk : Disk) (language : String) (c : Catalog) :
    c.Keeps ((table disk language).run c).2 ∧
      ∀ t, ((table disk language).run c).1 = .ok t →
        ((table disk language).run c).2.tables.lookup language = some t := by
  cases hlookup : c.tables.lookup language with
  | some t =>
    rw [table_of_lookup hlookup]
    refine ⟨.refl c, fun t' ht => ?_⟩
    cases ht
    exact hlookup
  | none =>
    cases hfresh : fresh disk c.roots language with
    | error e =>
      rw [table_of_error hlookup hfresh]
      exact ⟨.refl c, nofun⟩
    | ok t =>
      rw [table_of_fresh hlookup hfresh]
      refine ⟨fun other t' ht => ?_, fun t' ht => ?_⟩
      · -- the other table has been read before, so it is not the new one
        have hne : other ≠ language := by
          rintro rfl
          rw [hlookup] at ht
          cases ht
        rwa [List.lookup_cons, beq_eq_false_iff_ne.mpr hne]
      · cases ht
        exact List.lookup_cons_self

/-- A lookup keeps all tables. Where it has found a template, it is repeated on any disk and in any
catalog with the same tables. -/
theorem getIn_again (h : (getIn disk key languages).run c = (result, c')) :
    c.Keeps c' ∧ ∀ template, result = .ok template → ∀ disk' c'', c'.Keeps c'' →
      (getIn disk' key languages).run c'' = (.ok template, c'') := by
  induction languages generalizing c with
  | nil =>
    obtain ⟨rfl, rfl⟩ := Prod.mk.inj h
    refine ⟨.refl c, fun template ht disk' c'' _ => ?_⟩
    cases ht
    rfl
  | cons language rest ih =>
    obtain ⟨hkeeps, htable⟩ := table_keeps disk language c
    rw [getIn, RunM.run_bind] at h
    rcases hread : (table disk language).run c with ⟨e | t, mid⟩
    · rw [hread] at h hkeeps
      obtain ⟨rfl, rfl⟩ := Prod.mk.inj h
      exact ⟨hkeeps, nofun⟩
    · rw [hread] at h hkeeps htable
      have hmid : mid.tables.lookup language = some t := htable t rfl
      dsimp only at h
      cases hkey : t.lookup key with
      | some found =>
        rw [hkey] at h
        obtain ⟨rfl, rfl⟩ := Prod.mk.inj h
        refine ⟨hkeeps, fun template ht disk' c'' hc => ?_⟩
        cases ht
        rw [getIn, RunM.run_bind, table_of_lookup (hc language t hmid)]
        dsimp only
        rw [hkey]
        rfl
      | none =>
        rw [hkey] at h
        obtain ⟨hrest, hagain⟩ := ih h
        refine ⟨hkeeps.trans hrest, fun template ht disk' c'' hc => ?_⟩
        rw [getIn, RunM.run_bind, table_of_lookup (hc language t (hrest language t hmid))]
        dsimp only
        rw [hkey]
        exact hagain template ht disk' c'' hc

/-- The same of a lookup by key, in the language of the surroundings. -/
theorem get_again {requested : Option String}
    (h : (get { disk, language := requested } key).run c = (result, c')) :
    c.Keeps c' ∧ ∀ template, result = .ok template → ∀ disk' c'', c'.Keeps c'' →
      (get { disk := disk', language := requested } key).run c'' = (.ok template, c'') :=
  getIn_again h

end TestSkeleton.Catalog
