import TestSkeleton.Manifest.Loader
import TestSkeleton.Run.Runner
import TestSkeleton.Settings.Project

/-!
# Generation

A whole run in a project: settings, framework, manifests, bodies, files. The disk is read as it is
at the start; everything is checked and assembled before the first call of the adapter.

Application of `stubwright-application`; specification `SPEC_FULL.md:242–245`.
-/

namespace TestSkeleton.Generation

open Java

/-- The framework of a name. -/
def framework (name : String) : Except Failure Framework :=
  match Framework.ofName? name with
  | some f => .ok f
  | none => .error (.settings (.unknownFramework name (Framework.known.map (·.name))))

/-- The runner for settings, which places its files below a directory.
`StubwrightApp.make_runner`. -/
def runner (root : Path) (s : Settings) (revise : Batch → Batch) : Except Failure Runner := do
  let f ← framework s.framework
  return {
    outline := .ofFramework f s.lineSeparator
    placement := { base := root.text, outputRoot := s.outputPath, extension := s.fileExtension }
    terminator := s.lineSeparator
    revise }

variable {m : Type → Type} [Monad m] [MonadExcept Failure m]

/-- Loads the classes of one descriptor path and tells how many there are.
`StubwrightApp.load_descriptors`. -/
def loadEntry (disk : Disk) (root : Path) (h : Handlers m) (entry : String) :
    m (List ClassInfo) := do
  let classes ← Failure.orThrow (Manifest.load disk (root.joinText entry))
  h.announce (.loaded classes.length entry)
  return classes

/-- Generates the tests of the project of a directory and returns their files.
`StubwrightApp.run_from_config`, `SPEC_FULL.md:242–245`. -/
def run (disk : Disk) (root : Path) (o : Overrides) (h : Handlers m)
    (revise : Batch → Batch := id) : m (List Path) := do
  let settings ← Failure.orThrow (Settings.loadWith disk root o)
  let runner ← Failure.orThrow (runner root settings revise)
  let classes := (← settings.descriptors.mapM (loadEntry disk root h)).flatten
  if classes.isEmpty then
    h.announce .nothingFound
    return []
  else
    h.announce (.started classes.length settings.outputPath)
    let written ← runner.run h classes settings.variants
    h.announce (.completed written.length)
    return written

end TestSkeleton.Generation
