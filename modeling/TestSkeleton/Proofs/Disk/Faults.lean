import Mathlib.Data.List.Infix
import TestSkeleton.Proofs.Disk.Written
import TestSkeleton.Proofs.Outcome
import TestSkeleton.Proofs.Text.Split

/-!
# Faults of calls

The one fault that calls on a disk can meet: a null character in a path. It shows where something is
made, never where something is removed.
-/

namespace TestSkeleton

namespace Path

end Path

namespace Disk

variable {d d' : Disk} {p target : Path} {e : Entry} {f : Fault} {content : ByteArray}
  {terminator body : String}

end Disk
end TestSkeleton
