import TestSkeleton.Disk.Tree
import TestSkeleton.Failure

/-!
# Looking up paths

A path is followed from the root, one segment after the other. Every segment is a step out of a
directory that exists, a step upwards too: below a missing directory, or below a file, there is
nothing, not even the way back.
-/

namespace TestSkeleton

/-- Whether a name is longer than a disk takes. -/
def Segment.isTooLong (s : Segment) : Bool := 255 < s.text.utf8ByteSize

namespace Path

/-- Whether a path is longer than a disk takes. -/
def isTooLong (p : Path) : Bool := 4096 ≤ p.text.utf8ByteSize

/-- Whether a path has a null character in it, which no operation takes. -/
def hasNull (p : Path) : Bool := p.text.toList.contains '\x00'

end Path

namespace Disk

/-- Follows segments from a place. -/
def follow (d : Disk) : Place → List Segment → Except DiskProblem Place
  | here, [] => .ok here
  | here, s :: rest =>
    match d.lookAt here with
    | none => .error .missing
    | some (.file _) => .error .notDirectory
    | some .directory =>
      if s = .up then follow d here.tail rest
      else if s.isTooLong then .error .nameTooLong
      else match d.lookAt (s :: here) with
        | none => .error .missing
        | some _ => follow d (s :: here) rest

/-- The place that a path leads to. A path without an anchor starts at the root as well. -/
def locate (d : Disk) (p : Path) : Except DiskProblem Place :=
  if p.isTooLong then .error .nameTooLong else d.follow [] p.segments

/-- What a path leads to, if there is something. A path that no disk can have is a failure. -/
def find? (d : Disk) (p : Path) : Except Failure (Option (Place × Entry)) :=
  if p.hasNull then .ok none
  else match d.locate p with
    | .ok here => .ok ((d.lookAt here).map fun e => (here, e))
    | .error .nameTooLong => .error (.disk .nameTooLong p)
    | .error _ => .ok none

/-- Whether a path leads to something. -/
def pathExists (d : Disk) (p : Path) : Except Failure Bool := (d.find? p).map Option.isSome

/-- Whether a path leads to a directory. -/
def isDirectory (d : Disk) (p : Path) : Except Failure Bool :=
  (d.find? p).map fun x => x.any fun x => !x.2.isFile

/-- Whether a path leads to a file. -/
def isFile (d : Disk) (p : Path) : Except Failure Bool :=
  (d.find? p).map fun x => x.any fun x => x.2.isFile

/-- The content of the file that a path leads to. -/
def read (d : Disk) (p : Path) : Except Failure ByteArray :=
  if p.hasNull then .error (.fault .badValue)
  else match d.locate p with
    | .error e => .error (.disk e p)
    | .ok here =>
      match d.lookAt here with
      | some (.file content) => .ok content
      | some .directory => .error (.disk .isDirectory p)
      | none => .error (.disk .missing p)

/-- The files below the directory that a path leads to, in the order of the disk. The walk is not
limited: an environment that gives up on a directory far below another one, or on a path to it that
is too long to be opened, does so outside of what is said here. -/
def filesBelow (d : Disk) (p : Path) : List (Path × ByteArray) :=
  match d.locate p with
  | .error _ => []
  | .ok here =>
    (d.below here).filterMap fun (names, e) =>
      match e with
      | .file content => some (⟨p.anchor, p.segments ++ names⟩, content)
      | .directory => none

end Disk
end TestSkeleton
