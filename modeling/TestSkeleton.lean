import TestSkeleton.Main
import TestSkeleton.Message.Log
import TestSkeleton.Project.Plan
import TestSkeleton.Proofs.Disk.Recorded
import TestSkeleton.Proofs.Disk.Replaced
import TestSkeleton.Proofs.Java.Agreement
import TestSkeleton.Proofs.Java.TestNames
import TestSkeleton.Proofs.Manifest.Directory
import TestSkeleton.Proofs.Manifest.Reported
import TestSkeleton.Proofs.Manifest.Written
import TestSkeleton.Proofs.Message.Coherence
import TestSkeleton.Proofs.Run.Account
import TestSkeleton.Proofs.Run.Endings
import TestSkeleton.Proofs.Run.Order
import TestSkeleton.Proofs.Run.Regeneration
import TestSkeleton.Proofs.Write.CallOrder
import TestSkeleton.Proofs.Write.OwnFiles
import TestSkeleton.Proofs.Java.Samples
import TestSkeleton.Proofs.Text.Lacking
import TestSkeleton.Proofs.Java.Characters
import TestSkeleton.Proofs.Text.Lines
import TestSkeleton.Proofs.Write.Records
import TestSkeleton.Proofs.Java.Lines
import TestSkeleton.Proofs.Java.Nesting
import TestSkeleton.Proofs.Disk.Contents
import TestSkeleton.Proofs.Java.BelowOutput
import TestSkeleton.Proofs.Java.BelowBase
import TestSkeleton.Proofs.Java.Receivers
import TestSkeleton.Proofs.Java.ArrayTypes
import TestSkeleton.Proofs.Java.Varargs
import TestSkeleton.Proofs.Java.ArrayNames
import TestSkeleton.Proofs.Java.SamplePools
import TestSkeleton.Proofs.Java.Calls
import TestSkeleton.Proofs.Settings.Acceptance
import TestSkeleton.Proofs.Run.Overrides
import TestSkeleton.Proofs.Settings.Nearest
import TestSkeleton.Proofs.Message.Broken
import TestSkeleton.Proofs.Message.Substitution
import TestSkeleton.Proofs.Run.ReportedNumbers
