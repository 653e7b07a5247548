import TestSkeleton.CommandLine.Command
import TestSkeleton.CommandLine.Help
import TestSkeleton.Disk.Files

/-!
# The program

Reads from the real disk what a run needs, lets the library decide, and carries out its calls.
Nothing is decided here.
-/

namespace TestSkeleton.Program

open CommandLine

/-- The files of a directory tree, added to a disk. What cannot be read is left out. -/
partial def captureTree (disk : Disk) (path : Path) : IO Disk := do
  let cwd ← IO.currentDir
  try
    let file := cwd / path.text
    if ← file.isDir then
      let mut disk := (disk.makeDirs path).2
      for entry in ← file.readDir do
        match Segment.ofString? entry.fileName with
        | some s => disk ← captureTree disk (path.child s)
        | none => pure ()
      return disk
    else return disk.put path (← IO.FS.readBinFile file)
  catch _ => return disk

/-- What a run in a directory reads: project files, templates and manifests. -/
def capture (dir : Path) (o : Overrides) : IO Disk := do
  let mut disk := (Disk.empty.makeDirs dir).2
  for ancestor in dir.selfAndAncestors do
    let path := ancestor.join projectFile
    let cwd ← IO.currentDir
    if (← (cwd / path.text).pathExists) && !(← (cwd / path.text).isDir) then
      disk ← captureTree disk path
  match projectOf disk dir with
  | .ok project =>
    disk ← captureTree disk (project.joinText "needle")
    disk ← captureTree disk (project.joinText ".stubwright/needle")
  | .error _ => pure ()
  match Settings.loadWith disk dir o with
  | .ok settings =>
    for entry in settings.descriptors do
      disk ← captureTree disk (dir.joinText entry)
  | .error _ => pure ()
  return disk

/-- The problem with a number, which some systems give with a minus sign. -/
def problemOf (code : UInt32) (details : String) : DiskProblem :=
  match (if code < 0x80000000 then code else 0 - code).toNat with
  | 2 => .missing
  | 17 => .alreadyExists
  | 20 => .notDirectory
  | 21 => .isDirectory
  | 36 => .nameTooLong
  | n => .other n details

/-- The failure that an error of the system stands for. -/
def failureOf (path : Path) : IO.Error → Failure
  | .noFileOrDirectory _ code details | .alreadyExists _ code details
  | .inappropriateType _ code details | .invalidArgument _ code details
  | .permissionDenied _ code details | .resourceExhausted _ code details =>
    .disk (problemOf code details) path
  | e => .disk (.other 5 (toString e)) path

/-- The result of an action of the system on a path. -/
def attempt (path : Path) (action : IO Unit) : BaseIO (Except Failure Unit) := do
  match ← action.toBaseIO with
  | .ok () => return .ok ()
  | .error e => return .error (failureOf path e)

/-- Makes a directory and those above it that are missing. -/
partial def makeDirs (path : Path) : IO (Except Failure Unit) := do
  let dir := (← IO.currentDir) / path.text
  match ← attempt path (IO.FS.createDir dir) with
  | .ok () => return .ok ()
  | .error (.disk .missing p) =>
    if path.segments.isEmpty then return .error (.disk .missing p)
    else match ← makeDirs path.parent with
      | .error e => return .error e
      | .ok () => attempt path (do if !(← dir.isDir) then IO.FS.createDir dir)
  | .error e => if ← dir.isDir then return .ok () else return .error e

/-- The monad of the program: a catalog, failures and the system. -/
abbrev ProgramM := StateT Catalog (ExceptT Failure IO)

/-- Carries out a call. -/
def perform (c : Call) : ProgramM Unit := do
  let file := (← IO.currentDir) / c.path.text
  let result : Except Failure Unit ← match c with
    | .remove p => attempt p (do if ← file.pathExists then IO.FS.removeFile file)
    | .makeDirs p => makeDirs p
    | .create p => attempt p (discard <| IO.FS.Handle.mk file .writeNew)
    | .writeRecords p records terminator =>
      attempt p (IO.FS.writeBinFile file (Records.join terminator records).toUTF8)
  Failure.orThrow result

/-- The template of a key, from the files that were captured. -/
def template (locale : Locale) (key : String) : ProgramM String := fun catalog =>
  let (result, catalog) := (Catalog.get locale key).run catalog
  return (← Failure.orThrow (m := ExceptT Failure IO) result, catalog)

/-- Shows a message at once. -/
def show_ (console : Console) (level : Level) (text : String) : ProgramM Unit := do
  IO.print (console.line level text)
  (← IO.getStdout).flush

/-- Runs the program on the words of its command line. -/
def run (words : List String) : IO UInt32 := do
  let dir := Path.ofString (← IO.currentDir).toString
  let language ← IO.getEnv "STUBWRIGHT_LANG"
  let color ← (← IO.getStdout).isTty
  let finish (disk : Disk) (action : Locale → ProgramM UInt32) : IO UInt32 := do
    match catalogOf disk dir with
    | .error e => IO.eprintln e.message; return 1
    | .ok catalog =>
      match ← ((action { disk, language }).run catalog).run with
      | .ok (code, _) => return code
      | .error e => IO.eprintln (Argument.failure e).quoted; return 1
  let page (locale : Locale) : ProgramM String := do
    let texts ← helpKeys.mapM fun key => return (key, ← template locale key)
    return helpPage fun key => (texts.lookup key).getD key
  match readRequest words with
  | .help => finish (← capture dir {}) fun locale => do
    IO.print (← page locale)
    return 0
  | .usageError => finish (← capture dir {}) fun locale => do
    IO.eprint (← page locale)
    return 2
  | .generate verbose overrides =>
    let disk ← capture dir overrides
    finish disk fun locale => do
      let handlers : Handlers ProgramM := {
        perform
        announce := fun msg => msg.send (template locale) (some (show_ { verbose, color })) }
      return (← generate disk dir overrides handlers).toUInt32

end TestSkeleton.Program

/-- The program. -/
def main (args : List String) : IO UInt32 := TestSkeleton.Program.run args
