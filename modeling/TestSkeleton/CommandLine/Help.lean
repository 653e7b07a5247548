import TestSkeleton.CommandLine.Options

/-!
# Help

The page that explains the options. Its words come from templates.

Command line of `stubwright-cli`; specification `SPEC_FULL.md:246–247`.
-/

namespace TestSkeleton.CommandLine

/-- The options with the keys of their explanations. -/
def explained : List (String × String) :=
  [("--verbose, -v", "cli.option.verbose.help"),
   ("generate", "cli.command.generate.help"),
   ("  --variants, -n INTEGER", "cli.option.variants.help"),
   ("  --output, -o TEXT", "cli.option.output.help"),
   ("  --descriptor, -d TEXT", "cli.option.descriptor.help")]

/-- The keys of all texts on the page. -/
def helpKeys : List String := "cli.app.description" :: explained.map (·.2)

private def fill (width : Nat) (s : String) : String := s.pushn ' ' (width - s.length)

/-- The page, given the text of each key. -/
def helpPage (text : String → String) : String :=
  "Usage: stubwright [OPTIONS] COMMAND [ARGS]...\n\n" ++ text "cli.app.description" ++ "\n\n"
    ++ String.join (explained.map fun e => "  " ++ fill 28 e.1 ++ text e.2 ++ "\n")

end TestSkeleton.CommandLine
