import TestSkeleton.Message.Argument

/-!
# The console

How messages look on a console: one line each, in the color of their level. Where the console shows
no colors, color codes are taken out, those in the text of a message as well.

Renderer of `stubwright-cli`; specification `SPEC_FULL.md:225–226`.
-/

namespace TestSkeleton.CommandLine

/-- What a console shows. -/
structure Console where
  verbose : Bool := false
  color : Bool := false
deriving DecidableEq, Repr, Inhabited

/-- The number of the color of a level, if it has one. -/
def colorOf? : Level → Option Nat
  | .debug => some 90
  | .info => none
  | .success => some 32
  | .warning => some 33
  | .error => some 31

/-- The start of a color code. -/
def escape : Char := '\x1b'

/-- A color code. -/
def colorCode (n : Nat) : String :=
  String.ofList (escape :: '[' :: (Nat.toDigits 10 n ++ ['m']))

/-- What follows a color code at the start of a text, if there is one: parameters and a letter. -/
def afterCode? : List Char → Option (List Char)
  | e :: '[' :: rest =>
    if e = escape then
      match rest.dropWhile fun c => c == ';' || c == '?' || ('0' ≤ c && c ≤ '9') with
      | c :: after => if ('a' ≤ c ∧ c ≤ 'z') ∨ ('A' ≤ c ∧ c ≤ 'Z') then some after else none
      | [] => none
    else none
  | _ => none

-- Takes out color codes; `skip` characters of one are still to come.
private def stripFrom (skip : Nat) : List Char → List Char
  | [] => []
  | c :: rest =>
    match skip with
    | n + 1 => stripFrom n rest
    | 0 =>
      match afterCode? (c :: rest) with
      | some after => stripFrom (rest.length - after.length) rest
      | none => c :: stripFrom 0 rest

/-- A text without color codes. -/
def stripCodes (s : String) : String := String.ofList (stripFrom 0 s.toList)

/-- The line of a message, with the color of its level. -/
def coloredLine (level : Level) (text : String) : String :=
  ((colorOf? level).map colorCode).getD "" ++ text ++ colorCode 0

/-- What a console shows of a message.
`CliRenderer.render`. -/
def Console.line (c : Console) (level : Level) (text : String) : String :=
  if level = .debug ∧ !c.verbose then ""
  else
    let line := coloredLine level text
    (if c.color then line else stripCodes line) ++ "\n"

end TestSkeleton.CommandLine
