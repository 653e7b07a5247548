import TestSkeleton.Java.Target
import TestSkeleton.Java.TestClass
import TestSkeleton.Message.Argument
import TestSkeleton.Write.Batch

/-!
# Runners

A runner turns classes into files: it assembles the bodies of all classes, finds their targets,
and only then writes the batch. What it writes to and whom it tells are handlers of any kind.

Runner of `stubwright-application`; specification `SPEC_FULL.md:239–241`.
-/

namespace TestSkeleton

open Java

/-- What a run acts on: an adapter for its calls and a listener for its messages. -/
structure Handlers (m : Type → Type) where
  perform : Call → m Unit
  announce : Message → m Unit

/-! ### The messages of a run -/

namespace Message

private def number (n : Int) : Argument := .value (.int n)

private def text (s : String) : Argument := .value (.text s)

/-- A descriptor path has been loaded. -/
def loaded (count : Nat) (entry : String) : Message :=
  ⟨.debug, ⟨"generate.descriptor.loaded"⟩, [("count", number count), ("path", text entry)]⟩

/-- There is nothing to generate. -/
def nothingFound : Message := ⟨.warning, ⟨"generate.run.empty"⟩, []⟩

/-- A run starts to generate. -/
def started (count : Nat) (output : String) : Message :=
  ⟨.info, ⟨"generate.run.start"⟩, [("count", number count), ("output", text output)]⟩

/-- The body of a class is there. -/
def assembled (name : Value) (stubs : Int) : Message :=
  ⟨.debug, ⟨"generate.body.assembled"⟩, [("name", .value name), ("stubs", number stubs)]⟩

/-- A file has been written. -/
def written (path : Path) : Message := ⟨.success, ⟨"generate.file.success"⟩, [("path", .path path)]⟩

/-- A run is complete. -/
def completed (count : Nat) : Message :=
  ⟨.success, ⟨"generate.run.complete"⟩, [("count", number count)]⟩

end Message

/-- How classes become files. `revise` may change a batch before it is written. -/
structure Runner where
  outline : Outline
  placement : Placement
  terminator : String
  revise : Batch → Batch := id

namespace Runner

/-- The number of variants of a request, which is not negative.
`GenerationRequest`, `SPEC_FULL.md:141–142`. -/
def checkVariants (variants : Int) : Except Failure Nat :=
  if variants < 0 then .error (.negativeVariants variants) else .ok variants.toNat

/-- The body of a class. -/
def body (r : Runner) (c : ClassInfo) (variants : Int) : Except Failure String := do
  let n ← checkVariants variants
  return (← Failure.ofFault (r.outline.body c n)).text

variable {m : Type → Type} [Monad m] [MonadExcept Failure m]

/-- Assembles the body of a class and tells about it. -/
def assemble (r : Runner) (h : Handlers m) (variants : Int) (c : ClassInfo) : m String := do
  let body ← Failure.orThrow (r.body c variants)
  h.announce (.assembled c.simpleName (c.publicMethods.length * variants))
  return body

/-- The batch for classes: all bodies, then all targets.
`GenerateRunner.assemble_batch`, `SPEC_FULL.md:239–240`. -/
def batch (r : Runner) (h : Handlers m) (classes : List ClassInfo) (variants : Int) : m Batch := do
  let bodies ← classes.mapM (r.assemble h variants)
  return { bodies, targets := classes.map r.placement.target }

/-- Writes the tests of classes and returns their files.
`GenerateRunner.run_batch`, `SPEC_FULL.md:239–241`. -/
def run (r : Runner) (h : Handlers m) (classes : List ClassInfo) (variants : Int) :
    m (List Path) := do
  let batch ← r.batch h classes variants
  let written ← (r.revise batch).write h.perform r.terminator
  written.forM fun path => h.announce (.written path)
  return written

end Runner
end TestSkeleton
