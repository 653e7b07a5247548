import TestSkeleton.CommandLine.WholeNumber
import TestSkeleton.Settings.Basic

/-!
# Options

The words of a command line. A long option is `--name`, with its value after `=` or in the next
word; short options stand together after one dash, and the first one that takes a value takes the
rest of its word or the next word. Two dashes end the options.

Command line of `stubwright-cli`; specification `SPEC_FULL.md:246–247`.
-/

namespace TestSkeleton.CommandLine

/-- The options. -/
inductive Flag where
  | help
  | verbose
  | variants
  | output
  | descriptor
deriving DecidableEq, Repr, Inhabited

/-- Whether an option takes a value. -/
def Flag.takesValue : Flag → Bool
  | help | verbose => false
  | variants | output | descriptor => true

/-- The options that are allowed at a place, by long name and by letter. -/
structure OptionTable where
  long : List (String × Flag)
  short : List (Char × Flag)
  /-- Whether options may follow other words. -/
  interspersed : Bool

/-- The options before the command. -/
def mainOptions : OptionTable where
  long := [("--verbose", .verbose), ("--help", .help)]
  short := [('v', .verbose)]
  interspersed := false

/-- The options of the `generate` command. -/
def generateOptions : OptionTable where
  long := [("--variants", .variants), ("--output", .output), ("--descriptor", .descriptor),
    ("--help", .help)]
  short := [('n', .variants), ('o', .output), ('d', .descriptor)]
  interspersed := true

/-- An option with its value; options without values have an empty one. -/
abbrev Given := Flag × String

/-- What a word with options comes to: the options in it, and one that needs the next word. -/
structure WordOptions where
  given : List Given
  pending : Option Flag := none

/-- The options of a group of letters. -/
def readLetters (t : OptionTable) : List Char → Option WordOptions
  | [] => some ⟨[], none⟩
  | c :: rest => do
    let flag ← t.short.lookup c
    if !flag.takesValue then
      let more ← readLetters t rest
      return { more with given := (flag, "") :: more.given }
    else if rest.isEmpty then return ⟨[], some flag⟩
    else return ⟨[(flag, String.ofList rest)], none⟩

/-- The options in a word that starts with a dash. -/
def readWord (t : OptionTable) (word : String) : Option WordOptions :=
  let cs := word.toList
  let name := String.ofList (cs.takeWhile (· != '='))
  let value := match cs.dropWhile (· != '=') with
    | [] => none
    | _ :: rest => some (String.ofList rest)
  match t.long.lookup name with
  | some flag =>
    match flag.takesValue, value with
    | true, some value => some ⟨[(flag, value)], none⟩
    | true, none => some ⟨[], some flag⟩
    | false, none => some ⟨[(flag, "")], none⟩
    | false, some _ => none
  | none => if cs.take 2 = ['-', '-'] then none else readLetters t (cs.drop 1)

/-- Whether a word holds options. A lone dash does not. -/
def isOptionWord (word : String) : Bool := word.toList.head? == some '-' && 1 < word.length

/-- The options and the other words of a command line; none if an option is unknown or lacks its
value. -/
def readWords (t : OptionTable) : List String → Option (List Given × List String)
  | [] => some ([], [])
  | word :: rest =>
    if word = "--" then some ([], rest)
    else if isOptionWord word then do
      let options ← readWord t word
      match options.pending, rest with
      | none, rest =>
        let more ← readWords t rest
        return (options.given ++ more.1, more.2)
      | some _, [] => none
      | some flag, value :: rest =>
        let more ← readWords t rest
        return (options.given ++ (flag, value) :: more.1, more.2)
    else if t.interspersed then do
      let more ← readWords t rest
      return (more.1, word :: more.2)
    else some ([], word :: rest)

/-- What a command line asks for. -/
inductive Request where
  | help
  | usageError
  | generate (verbose : Bool) (overrides : Overrides)
deriving DecidableEq, Repr, Inhabited

/-- The last value of an option. -/
def lastValue? (given : List Given) (flag : Flag) : Option String :=
  ((given.filter (·.1 = flag)).getLast?).map (·.2)

/-- Whether an option is given. -/
def hasFlag (given : List Given) (flag : Flag) : Bool := given.any (·.1 = flag)

/-- The number of variants of an option: a whole number that is not negative. -/
def readVariants : Option String → Option (Option Int)
  | none => some none
  | some s =>
    match WholeNumber.read? s with
    | some n => if n < 0 then none else some (some n)
    | none => none

/-- The request of the words after `generate`. A request for help comes before anything that is
wrong with the values. -/
def readGenerate (verbose : Bool) (words : List String) : Request :=
  match readWords generateOptions words with
  | none => .usageError
  | some (given, others) =>
    if hasFlag given .help then .help
    else match readVariants (lastValue? given .variants) with
      | none => .usageError
      | some variants =>
        if !others.isEmpty then .usageError
        else .generate verbose {
          variants
          outputPath := lastValue? given .output
          descriptors := some ((given.filter (·.1 = .descriptor)).map (·.2)) }

/-- Whether words ask for help before the command. -/
def asksForHelp (words : List String) : Bool :=
  ((readWords mainOptions words).map fun r => hasFlag r.1 .help).getD false

/-- The request of a command line. Words after two dashes that are no command may still ask for
help. -/
def readRequest (words : List String) : Request :=
  match readWords mainOptions words with
  | none => .usageError
  | some (given, others) =>
    if hasFlag given .help then .help
    else match others with
      | "generate" :: rest => readGenerate (hasFlag given .verbose) rest
      | others => if asksForHelp others then .help else .usageError

end TestSkeleton.CommandLine
