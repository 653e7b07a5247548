import TestSkeleton.CommandLine.Console
import TestSkeleton.CommandLine.Options
import TestSkeleton.Message.Rendering
import TestSkeleton.Run.Generation

/-!
# The command

What a command line does in a directory: it generates tests and shows the messages on a console.
Failures of the input are reported as one error and end the command with code 1; any other failure
ends it as it is.

Host of `stubwright-cli`; specification `SPEC_FULL.md:229–235` and `SPEC_FULL.md:246–247`.
-/

namespace TestSkeleton.CommandLine

/-- How a command ends. -/
inductive Outcome where
  /-- With an exit code. -/
  | exit (code : Nat)
  /-- With a failure that is not reported. -/
  | crash (failure : Failure)
deriving DecidableEq, Repr, Inhabited

/-- The message that reports a failure, if there is one for it. -/
def report? (f : Failure) : Option Message :=
  let message (key : String) : Message := ⟨.error, ⟨key⟩, [("error", .failure f)]⟩
  match f with
  | .batchSizes _ _ => some (message "error.batch.mismatch")
  | .manifest _ _ => some (message "error.descriptor")
  | .settings _ => some (message "error.config")
  | .disk _ _ => some (message "error.filesystem")
  | .negativeVariants _ | .fault _ => none

section

variable {m : Type → Type} [Monad m] [MonadExceptOf Failure m]

/-- Generates tests and reports a failure; gives the exit code.
`generate_command`, `SPEC_FULL.md:234–235`. -/
def generate (disk : Disk) (root : Path) (o : Overrides) (h : Handlers m)
    (revise : Batch → Batch := id) : m Nat :=
  tryCatch
    (do
      let _ ← Generation.run disk root o h revise
      return 0)
    (fun f =>
      match report? f with
      | some msg => do
        h.announce msg
        return 1
      | none => throw f)

end

/-- The state of a command: the disk, the catalog of templates and what the console shows. -/
structure Session where
  disk : Disk
  catalog : Catalog
  output : String := ""

/-- A step of a command. -/
abbrev SessionM := ExceptT Failure (StateM Session)

namespace Session

/-- A call of the adapter, carried out on the disk of a session. -/
def perform (c : Call) : SessionM Unit := fun s =>
  let (result, disk) := s.disk.after c
  (result, { s with disk })

/-- The template of a key for a language of the environment. -/
def template (language : Option String) (key : String) : SessionM String := fun s =>
  let (result, catalog) := (Catalog.get { disk := s.disk, language } key).run s.catalog
  (result, { s with catalog })

/-- Shows a message. -/
def show_ (console : Console) (level : Level) (text : String) : SessionM Unit :=
  modify fun s => { s with output := s.output ++ console.line level text }

/-- The handlers of a session. -/
def handlers (console : Console) (language : Option String)
    (outside : Template.Outside := .none) : Handlers SessionM where
  perform := perform
  announce msg := msg.send (template language) (some (show_ console)) outside

end Session

/-- The catalog of a directory: the packaged templates below those of its project. -/
def catalogOf (disk : Disk) (dir : Path) : Except Failure Catalog := do
  return { roots := [.packaged, .directory (← projectOf disk dir)] }

/-- Generates tests in a directory and gives the end of the command with its session. -/
def runGenerate (disk : Disk) (dir : Path) (console : Console) (language : Option String)
    (o : Overrides) (revise : Batch → Batch := id) (outside : Template.Outside := .none) :
    Outcome × Session :=
  match catalogOf disk dir with
  | .error f => (.crash f, { disk, catalog := { roots := [.packaged] } })
  | .ok catalog =>
    match (generate disk dir o (Session.handlers console language outside) revise).run
        { disk, catalog } with
    | (.ok code, s) => (.exit code, s)
    | (.error f, s) => (.crash f, s)

end TestSkeleton.CommandLine
