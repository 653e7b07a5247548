import TestSkeleton.Write.Batch

/-!
# Ledger

An adapter that writes nothing: it keeps every call in order and the text that each file would have.

Recording file system of `stubwright-test-utils`.
-/

namespace TestSkeleton

/-- The calls made so far and the texts of the files.
`RecordingFileSystem`. -/
structure Ledger where
  calls : List Call := []
  files : List (Path × String) := []
deriving DecidableEq, Repr, Inhabited

namespace Ledger

/-- The files without one path. -/
def dropFile (p : Path) (files : List (Path × String)) : List (Path × String) :=
  files.filter (·.1 ≠ p)

/-- The files after a call. -/
def filesAfter (files : List (Path × String)) : Call → List (Path × String)
  | .remove p => dropFile p files
  | .makeDirs _ => files
  | .create p => (p, "") :: dropFile p files
  | .writeRecords p records terminator => (p, Records.join terminator records) :: dropFile p files

/-- The ledger after a call. -/
def record (l : Ledger) (c : Call) : Ledger := ⟨l.calls ++ [c], filesAfter l.files c⟩

/-- The text of a file. -/
def text? (l : Ledger) (p : Path) : Option String := l.files.lookup p

/-! ### What a call changes -/

/-- A recorded call is the last one. -/
@[simp] theorem calls_record (l : Ledger) (c : Call) : (l.record c).calls = l.calls ++ [c] := rfl

/-- Other files keep their texts. -/
theorem lookup_dropFile_of_ne {p q : Path} (h : q ≠ p) (files : List (Path × String)) :
    (dropFile p files).lookup q = files.lookup q := by
  induction files with
  | nil => rfl
  | cons f fs ih =>
    by_cases hf : f.1 = p
    · rw [dropFile, List.filter_cons_of_neg (by simp [hf]), ← dropFile, ih, List.lookup_cons,
        beq_eq_false_iff_ne.mpr (hf ▸ h)]
    · rw [dropFile, List.filter_cons_of_pos (by simp [hf]), ← dropFile, List.lookup_cons,
        List.lookup_cons, ih]

/-- A call changes the text of no other file. -/
theorem text?_record_of_ne {p : Path} {c : Call} (h : p ≠ c.path) (l : Ledger) :
    (l.record c).text? p = l.text? p := by
  cases c with
  | makeDirs _ => rfl
  | remove _ => exact lookup_dropFile_of_ne h l.files
  | create q | writeRecords q _ _ =>
    have hq : (p == q) = false := beq_eq_false_iff_ne.mpr h
    rw [text?, record, filesAfter, List.lookup_cons, hq]
    exact lookup_dropFile_of_ne h l.files

/-- A written file has its records, each with the terminator. -/
@[simp] theorem text?_record_writeRecords (l : Ledger) (p : Path) (records : List String)
    (terminator : String) :
    (l.record (.writeRecords p records terminator)).text? p =
      some (Records.join terminator records) := by
  simp [text?, record, filesAfter]

/-- The ledger as an adapter. Its calls never fail. -/
def perform (c : Call) : ExceptT Failure (StateM Ledger) Unit := modify (·.record c)

end Ledger
end TestSkeleton
