import Mathlib.Data.List.Nodup
import TestSkeleton.Disk.Tree

/-!
# Entries of disks

What is at a place, as a statement about the entries of a disk, and what an operation on the tree
makes of it.
-/

namespace TestSkeleton.Disk

variable {d : Disk} {p q : Place} {e : Entry}

/-- Below the root, what is at a place is its entry. -/
theorem lookAt_eq_some_iff (hq : q ≠ []) : d.lookAt q = some e ↔ (q, e) ∈ d.entries := by
  constructor
  · exact mem_of_lookAt hq
  · intro hmem
    cases hlook : d.lookAt q with
    | none => exact absurd hmem (not_mem_of_lookAt hlook e)
    | some e' =>
      -- a place has one entry, so the one that is found is this one
      have heq : (q, e') = (q, e) :=
        List.inj_on_of_nodup_map d.nodup (mem_of_lookAt hq hlook) hmem rfl
      rw [(Prod.mk.inj heq).2]

/-- There is nothing at a place of which a name is the step upwards. -/
theorem up_not_mem_of_lookAt (h : d.lookAt q = some e) : .up ∉ q := by
  by_cases hq : q = []
  · subst hq
    exact List.not_mem_nil
  · exact d.named _ ((lookAt_eq_some_iff hq).mp h)

/-- What is at a place does not depend on the order of the entries. -/
theorem lookAt_of_perm {d' : Disk} (h : d.entries.Perm d'.entries) (q : Place) :
    d.lookAt q = d'.lookAt q := by
  by_cases hq : q = []
  · rw [hq, lookAt_nil, lookAt_nil]
  · ext e
    rw [lookAt_eq_some_iff hq, lookAt_eq_some_iff hq, h.mem_iff]

/-- Erasing a file leaves everything but that file. -/
theorem lookAt_eraseFile_eq_some :
    (d.eraseFile p).lookAt q = some e ↔ d.lookAt q = some e ∧ ¬ (q = p ∧ e.isFile = true) := by
  by_cases hq : q = []
  · subst hq
    simp only [lookAt_nil, Option.some.injEq]
    constructor
    · rintro rfl
      exact ⟨rfl, by simp [Entry.isFile]⟩
    · exact fun h => h.1
  · rw [lookAt_eq_some_iff hq, lookAt_eq_some_iff hq]
    simp only [eraseFile, List.mem_filter, Bool.not_eq_true', Bool.and_eq_false_iff,
      decide_eq_false_iff_not, not_and_or, Bool.not_eq_true]

/-- Erasing a file leaves all directories. -/
theorem lookAt_eraseFile_of_directory (h : d.lookAt q = some .directory) :
    (d.eraseFile p).lookAt q = some .directory :=
  lookAt_eraseFile_eq_some.mpr ⟨h, by simp [Entry.isFile]⟩

/-- Where a file has been erased nothing is left. -/
theorem lookAt_eraseFile_self {content : ByteArray} (h : d.lookAt p = some (.file content)) :
    (d.eraseFile p).lookAt p = none := by
  cases hleft : (d.eraseFile p).lookAt p with
  | none => rfl
  | some e =>
    obtain ⟨hold, hne⟩ := lookAt_eraseFile_eq_some.mp hleft
    rw [h] at hold
    cases hold
    exact absurd ⟨rfl, rfl⟩ hne

/-- New content for a file leaves everything but the content of that file. -/
theorem lookAt_setContent_eq_some {content : ByteArray} :
    (d.setContent p content).lookAt q = some e ↔
      ∃ e', d.lookAt q = some e' ∧ e = if q = p ∧ e'.isFile then .file content else e' := by
  by_cases hq : q = []
  · subst hq
    simp only [lookAt_nil, Option.some.injEq]
    constructor
    · rintro rfl
      exact ⟨.directory, rfl, by simp [Entry.isFile]⟩
    · rintro ⟨e', rfl, rfl⟩
      simp [Entry.isFile]
  · rw [lookAt_eq_some_iff hq]
    constructor
    · intro hmem
      obtain ⟨⟨q', e'⟩, hmem', heq⟩ := List.mem_map.mp hmem
      obtain ⟨rfl, rfl⟩ := Prod.mk.inj heq
      exact ⟨e', (lookAt_eq_some_iff hq).mpr hmem', rfl⟩
    · rintro ⟨e', hlook, rfl⟩
      exact List.mem_map.mpr ⟨(q, e'), (lookAt_eq_some_iff hq).mp hlook, rfl⟩

end TestSkeleton.Disk
