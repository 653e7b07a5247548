import TestSkeleton.Disk.Adapter

/-!
# Disks from files

A disk from the paths and contents of its files.
-/

namespace TestSkeleton.Disk

/-- The disk with a file, made together with the directories above it. A path that no file can have
changes nothing. -/
def put (d : Disk) (p : Path) (content : ByteArray) : Disk :=
  match d.makeDirs p.parent with
  | (.error _, _) => d
  | (.ok (), made) =>
    match made.write p content with
    | .error _ => d
    | .ok written => written

/-- The disk with the given files and the directories above them. -/
def ofFiles (files : List (Path × ByteArray)) : Disk := files.foldl (fun d f => d.put f.1 f.2) empty

end TestSkeleton.Disk
