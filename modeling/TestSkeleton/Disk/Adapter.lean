import TestSkeleton.Disk.Lookup
import TestSkeleton.Write.Batch

/-!
# Writing to a disk

The adapter that changes a directory tree. A call that fails may have changed the tree before: the
directories that it has made stay.

File system adapter of `stubwright-io`; specification `SPEC_FULL.md:54` and `SPEC_FULL.md:75`.
-/

namespace TestSkeleton.Disk

/-- The directory of a new entry and its name, when a path leads to a place that is free. -/
def freePlace (d : Disk) (p : Path) : Except DiskProblem (Place × Segment) :=
  if p.isTooLong then .error .nameTooLong
  else match p.segments.getLast? with
    | none => .error .alreadyExists
    | some s =>
      match d.follow [] p.segments.dropLast with
      | .error e => .error e
      | .ok here =>
        match d.lookAt here with
        | none => .error .missing
        | some (.file _) => .error .notDirectory
        | some .directory =>
          if s = .up then .error .alreadyExists
          else if s.isTooLong then .error .nameTooLong
          else if (d.lookAt (s :: here)).isSome then .error .alreadyExists
          else .ok (here, s)

/-- The disk with a new entry at the end of a path. -/
def add (d : Disk) (p : Path) (e : Entry) : Except Failure Disk :=
  if p.hasNull then .error (.fault .badValue)
  else match d.freePlace p with
    | .error problem => .error (.disk problem p)
    | .ok (here, s) =>
      match hp : d.lookAt here, hs : d.lookAt (s :: here) with
      | some .directory, none =>
        if hup : s = .up then .error (.disk .alreadyExists p)
        else .ok (d.insert s here e hp hs hup)
      | _, _ => .error (.disk .missing p)

/-- What making a directory comes to after a failure: a directory that is there already is fine,
unless the one above it is missing. -/
def acceptExisting (d : Disk) (p : Path) (failure : Failure) : Except Failure Unit :=
  match failure with
  | .disk .missing _ => .error failure
  | .disk _ _ => do
    if ← d.isDirectory p then return () else throw failure
  | _ => .error failure

/-- Makes a directory whose parent is there. -/
def makeLast (d : Disk) (p : Path) : Except Failure Unit × Disk :=
  match d.add p .directory with
  | .ok d => (.ok (), d)
  | .error e => (acceptExisting d p e, d)

/-- Makes the directory that a path leads to. Where the one above it is missing, makes that one
first and then tries once more, however many are missing.
`RealFileSystem.make_dirs`. -/
def makeDirs (d : Disk) (p : Path) : Except Failure Unit × Disk :=
  match d.add p .directory with
  | .ok d => (.ok (), d)
  | .error (.disk .missing q) =>
    if _h : p.segments = [] then (.error (.disk .missing q), d)
    else
      match makeDirs d p.parent with
      | (.error e, d) => (.error e, d)
      | (.ok (), d) => makeLast d p
  | .error e => (acceptExisting d p e, d)
termination_by p.segments.length
decreasing_by
  have := List.length_pos_iff.mpr _h
  simp only [Path.parent, List.length_dropLast]
  omega

/-- Removes the file that a path leads to, if it leads anywhere.
`RealFileSystem.remove`. -/
def remove (d : Disk) (p : Path) : Except Failure Disk := do
  match ← d.find? p with
  | none => return d
  | some (_, .directory) => throw (.disk .isDirectory p)
  | some (here, .file _) => return d.eraseFile here

/-- Makes an empty file where there is nothing yet.
`RealFileSystem.create`. -/
def create (d : Disk) (p : Path) : Except Failure Disk := d.add p (.file .empty)

/-- Gives a file its content, and makes it if it is missing. -/
def write (d : Disk) (p : Path) (content : ByteArray) : Except Failure Disk := do
  match ← d.find? p with
  | some (_, .directory) => throw (.disk .isDirectory p)
  | some (here, .file _) => return d.setContent here content
  | none => d.add p (.file content)

/-- An operation that either fails or gives the next disk. -/
def step (d : Disk) (x : Except Failure Disk) : Except Failure Unit × Disk :=
  match x with
  | .ok d => (.ok (), d)
  | .error e => (.error e, d)

/-- The disk after a call, and whether the call has failed.
`RealFileSystem`, `SPEC_FULL.md:54`. -/
def after (d : Disk) : Call → Except Failure Unit × Disk
  | .remove p => step d (d.remove p)
  | .makeDirs p => d.makeDirs p
  | .create p => step d (d.create p)
  | .writeRecords p records terminator =>
    step d (d.write p (Records.join terminator records).toUTF8)

/-- The disk as an adapter. -/
def perform (c : Call) : ExceptT Failure (StateM Disk) Unit := fun d => d.after c

end TestSkeleton.Disk
