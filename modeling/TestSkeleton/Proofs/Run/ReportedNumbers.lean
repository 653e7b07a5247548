import TestSkeleton.CommandLine.Options
import TestSkeleton.Proofs.Run.Overrides
import TestSkeleton.Proofs.Run.Unchecked
import TestSkeleton.Proofs.Settings.Acceptance
import TestSkeleton.Proofs.Toml.Negative

/-!
# Numbers in reports

A report on settings may hold a number: the negative number of variants that it refuses. The numbers
that an environment can write in decimal digits may be limited in length, but a project file spells
no negative number beyond that limit, and a command line spells none that is negative at all. So
every report of a run that a command line asks for can be written.

Specification: `SPEC_FULL.md:214` and `SPEC_FULL.md:234–235`.
-/

namespace TestSkeleton

open Numeral (isLong)

/-- A problem whose report has no number with too many digits to be written. -/
def SettingsProblem.IsShort : SettingsProblem → Prop
  | negativeVariants n | negativeOverride n => isLong n = false
  | _ => True

namespace Settings

variable {disk : Disk} {dir : Path} {o : Overrides} {problem : SettingsProblem}

private theorem section_short {v w : Value} {key : String} (hv : Toml.HasShortNegatives v)
    (h : section_ v key = .ok w) : Toml.HasShortNegatives w := by
  rw [section_.eq_def] at h
  split at h
  · next entries =>
    cases hv with
    | map hentries =>
      cases h
      cases hkey : Value.get? entries key with
      | none => exact .map (List.forall_mem_nil _)
      | some v => exact Toml.AllShort.of_get? hentries hkey
  · cases h

private theorem section_ne_settings {v : Value} {key : String} :
    section_ v key ≠ .error (.settings problem) := by
  intro h
  rw [section_.eq_def] at h
  split at h <;> cases h

private theorem isShort_of_hasProblem {entries : List (Value × Value)}
    (hentries : Toml.AllShort entries) (h : HasProblem entries problem) : problem.IsShort := by
  cases h with
  | negative hv hnegative =>
    cases hentries.of_get? hv with
    | int hshort => exact hshort hnegative
  | _ => trivial

private theorem isShort_of_ofValue {v : Value} (hv : Toml.HasShortNegatives v)
    (h : ofValue v = .error (.settings problem)) : problem.IsShort := by
  rw [ofValue] at h
  cases hv with
  | map hentries => exact isShort_of_hasProblem hentries (hasProblem_of_ofEntries h)
  | _ => cases h

/-- The reports on a project file can be written. -/
theorem isShort_of_parse {path : Path} {content : ByteArray}
    (h : parse path content = .error (.settings problem)) : problem.IsShort := by
  rw [parse] at h
  split at h
  · cases h
  · split at h
    · cases h
      trivial
    · cases h
    · next entries hread =>
      have hall : Toml.HasShortNegatives (.map entries) := .map (Toml.read_allShort hread)
      rcases Outcome.bind_eq_error.mp h with h | ⟨tool, htool, h⟩
      · exact (section_ne_settings h).elim
      rcases Outcome.bind_eq_error.mp h with h | ⟨table, htable, h⟩
      · exact (section_ne_settings h).elim
      exact isShort_of_ofValue (section_short (section_short hall htool) htable) h

/-- The settings of a directory are only refused with a report that can be written, if the number
set over them is not too long. -/
theorem isShort_of_loadWith (ho : ∀ n, o.variants = some n → n < 0 → isLong n = false)
    (h : loadWith disk dir o = .error (.settings problem)) : problem.IsShort := by
  rcases loadWith_eq_error.mp h with h | ⟨file, n, -, hn, hneg, hproblem⟩
  · rw [load] at h
    rcases Outcome.bind_eq_error.mp h with h | ⟨found, -, h⟩
    · exact (project?_failsOnly disk dir _ h).elim
    · cases found with
      | none => cases h
      | some project =>
        rcases Outcome.bind_eq_error.mp h with h | ⟨content, -, h⟩
        · exact (disk.read_failsOnly _ _ h).elim
        · exact isShort_of_parse h
  · cases hproblem
    exact ho n hn hneg

end Settings

namespace Generation

variable {disk : Disk} {dir : Path} {o : Overrides} {revise : Batch → Batch}
  {problem : SettingsProblem}

private theorem isShort_of_draft (ho : ∀ n, o.variants = some n → n < 0 → isLong n = false)
    (h : draft disk dir o revise = .error (.settings problem)) : problem.IsShort := by
  cases draft_eq_error.mp h with
  | settings h => exact Settings.isShort_of_loadWith ho h
  | framework s hs h =>
    obtain ⟨name, known, hproblem⟩ := runner_failsOnly dir s revise _ h
    cases hproblem
    trivial
  | manifest s r before after entry hs hr split loaded h =>
    exact (Manifest.load_failsOnly _ disk _ h).elim
  | body l before after c hl split assembled h =>
    obtain ⟨f, hf, -⟩ := Runner.body_eq_error.mp h
    cases hf
  | sizes l bodies hl nonempty assembled h =>
    obtain ⟨-, hsizes⟩ := Batch.check_eq_error.mp h
    cases hsizes

/-- A run that refuses its settings has a report that can be written, if the number set over them is
not too long. -/
theorem isShort_of_silent (ho : ∀ n, o.variants = some n → n < 0 → isLong n = false)
    (h : ((run disk dir o Disk.handlers revise).run disk).1 = .error (.settings problem)) :
    problem.IsShort := by
  rcases draft_or_file_of_silent h with hdraft | ⟨_, _, _, _, _, _, -, -, -, hfail⟩
  · exact isShort_of_draft ho hdraft
  · exact (Disk.ofDisk_of_failsAt hfail).elim

end Generation

namespace CommandLine

variable {words : List String} {isVerbose : Bool} {o : Overrides}

private theorem nonneg_of_readVariants {option : Option String} {n : Int}
    (h : readVariants option = some (some n)) : 0 ≤ n := by
  rw [readVariants.eq_def] at h
  split at h
  · cases h
  · split at h
    · split at h
      · cases h
      · next hneg =>
        cases h
        exact Int.not_lt.mp hneg
    · cases h

private theorem nonneg_of_readGenerate {given : Bool}
    (h : readGenerate given words = .generate isVerbose o) {n : Int} (hn : o.variants = some n) :
    0 ≤ n := by
  rw [readGenerate] at h
  split at h
  · cases h
  · split at h
    · cases h
    · split at h
      · cases h
      · next hread =>
        split at h
        · cases h
        · cases h
          obtain rfl := hn
          exact nonneg_of_readVariants hread

/-- A command line asks for no negative number of variants. -/
theorem nonneg_of_readRequest (h : readRequest words = .generate isVerbose o) {n : Int}
    (hn : o.variants = some n) : 0 ≤ n := by
  rw [readRequest] at h
  split at h
  · cases h
  · split at h
    · cases h
    · split at h
      · exact nonneg_of_readGenerate h hn
      · split at h <;> cases h

/-- A run that a command line asks for refuses its settings only with a report that can be
written. -/
theorem isShort_of_readRequest (h : readRequest words = .generate isVerbose o) {disk : Disk}
    {dir : Path} {revise : Batch → Batch} {problem : SettingsProblem}
    (hrun : ((Generation.run disk dir o Disk.handlers revise).run disk).1 =
      .error (.settings problem)) : problem.IsShort := by
  refine Generation.isShort_of_silent (fun n hn hneg => ?_) hrun
  exact absurd hneg (Int.not_lt.mpr (nonneg_of_readRequest h hn))

end CommandLine
end TestSkeleton
