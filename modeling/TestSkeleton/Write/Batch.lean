import TestSkeleton.Failure
import TestSkeleton.Write.Records

/-!
# Batches

The files of a run, and the calls that write them. `Batch.calls` is the whole plan of a batch;
`Batch.write` carries it out call by call on any adapter and stops where the adapter fails.

Write reconciler of `stubwright-io`; specification `SPEC_FULL.md:30`, `SPEC_FULL.md:51–56` and
`SPEC_FULL.md:143–144`.
-/

namespace TestSkeleton

/-- What a file system adapter is asked to do.
`FileSystemAdapter` of `stubwright-io`. -/
inductive Call where
  | remove (path : Path)
  | makeDirs (path : Path)
  | create (path : Path)
  | writeRecords (path : Path) (records : List String) (terminator : String)
deriving DecidableEq, Repr, Inhabited

namespace Call

/-- The path that a call is about. -/
def path : Call → Path
  | remove p | makeDirs p | create p | writeRecords p _ _ => p

/-- The name of a call. -/
def name : Call → String
  | remove _ => "remove"
  | makeDirs _ => "make_dirs"
  | create _ => "create"
  | writeRecords _ _ _ => "write_records"

end Call

/-- Files to write: each body goes to the target at its position.
`WriteBatch`, `SPEC_FULL.md:30`. -/
structure Batch where
  bodies : List String := []
  targets : List Path := []
deriving DecidableEq, Repr, Inhabited

namespace Batch

/-- The failure of a batch whose sizes differ.
`WriteBatch.validate`, `SPEC_FULL.md:53`. -/
def check (b : Batch) : Except Failure Unit :=
  if b.bodies.length = b.targets.length then .ok ()
  else .error (.batchSizes b.bodies.length b.targets.length)

/-- The number of files in a batch.
`WriteBatch.size`, `SPEC_FULL.md:144`. -/
def size (b : Batch) : Except Failure Nat := b.check.map fun _ => b.targets.length

/-- The calls for one file: the old file goes, its directory and an empty file come, the body is
written record by record.
`WriteReconciler.reconcile`, `SPEC_FULL.md:54`. -/
def callsFor (terminator body : String) (target : Path) : List Call :=
  [.remove target, .makeDirs target.parent, .create target,
   .writeRecords target (Records.split body) terminator]

/-- The calls for all files, in order. -/
def calls (terminator : String) (b : Batch) : List Call :=
  (b.bodies.zip b.targets).flatMap fun f => callsFor terminator f.1 f.2

/-- Writes a batch and returns its targets. Nothing is undone when a call fails.
`WriteReconciler.reconcile`, `SPEC_FULL.md:52–55` and `SPEC_FULL.md:75`. -/
def write {m : Type → Type} [Monad m] [MonadExcept Failure m] (perform : Call → m Unit)
    (terminator : String) (b : Batch) : m (List Path) := do
  Failure.orThrow b.check
  (b.calls terminator).forM perform
  return b.targets

/-- Every file takes four calls. -/
@[simp] theorem length_callsFor (terminator body : String) (target : Path) :
    (callsFor terminator body target).length = 4 := rfl

/-- A batch without bodies has no calls. -/
@[simp] theorem calls_nil (terminator : String) (targets : List Path) :
    calls terminator ⟨[], targets⟩ = [] := by simp [calls]

/-- The plan of a batch starts with the calls of its first file. -/
@[simp] theorem calls_cons (terminator body : String) (bodies : List String) (target : Path)
    (targets : List Path) :
    calls terminator ⟨body :: bodies, target :: targets⟩ =
      callsFor terminator body target ++ calls terminator ⟨bodies, targets⟩ := by
  simp [calls]

end Batch
end TestSkeleton
