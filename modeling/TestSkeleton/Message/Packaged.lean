import TestSkeleton.Disk.Files
import TestSkeleton.Json.Writer

/-!
# Packaged templates

The English templates that every run has, in the form of a directory with template files.

Message templates of `stubwright-common`; specification `SPEC_FULL.md:119`.
-/

namespace TestSkeleton.Packaged

/-- Templates for the help of the command line. -/
def commandLine : List (String × String) :=
  [("cli.app.description", "Generate JUnit test skeletons from class descriptors."),
   ("cli.option.verbose.help", "Show debug output."),
   ("cli.command.generate.help", "Generate one test skeleton file per described class."),
   ("cli.option.variants.help",
    "Number of stub variants per public method (overrides config)."),
   ("cli.option.output.help",
    "Output directory relative to the project root (overrides config)."),
   ("cli.option.descriptor.help",
    "Descriptor manifest file or directory (repeatable, overrides config).")]

/-- Templates for failures. -/
def failures : List (String × String) :=
  [("error.batch.mismatch", "Refusing to write: \x7berror\x7d"),
   ("error.descriptor", "Could not read class descriptors: \x7berror\x7d"),
   ("error.config", "Invalid configuration: \x7berror\x7d"),
   ("error.filesystem", "Filesystem error while writing tests: \x7berror\x7d")]

/-- Templates for the course of a run. -/
def generation : List (String × String) :=
  [("generate.run.start",
    "Generating test skeletons for \x7bcount\x7d class(es) into \x7boutput\x7d..."),
   ("generate.run.complete", "Generated \x7bcount\x7d test file(s)."),
   ("generate.run.empty",
    "No classes found in the configured descriptors. Nothing to generate."),
   ("generate.body.assembled", "Assembled \x7bname\x7dTest with \x7bstubs\x7d stub method(s)."),
   ("generate.file.success", "Generated: \x7bpath\x7d"),
   ("generate.descriptor.loaded", "Loaded \x7bcount\x7d class(es) from \x7bpath\x7d")]

/-- The content of a template file. -/
def fileContent (templates : List (String × String)) : ByteArray :=
  (Json.write .dense (Value.ofTextEntries (templates.map fun t => (t.1, .text t.2)))).toUTF8

/-- The packaged template files, below the root of a disk of their own. -/
def disk : Disk :=
  Disk.ofFiles
    [(.ofString "/needle/en/cli.json", fileContent commandLine),
     (.ofString "/needle/en/error.json", fileContent failures),
     (.ofString "/needle/en/generate.json", fileContent generation)]

end TestSkeleton.Packaged
