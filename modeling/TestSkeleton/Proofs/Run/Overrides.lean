import TestSkeleton.Proofs.Run.Failures

/-!
# Settings with what is set over them

What a caller sets over the settings of a project replaces single settings and leaves the others. A
negative number of variants is refused where it comes in, in a project file or from the caller, so
that a run never asks for one.

Specification: `SPEC_FULL.md:242–243`.
-/

namespace TestSkeleton

/-- Settings are those of a project, but for what is set over them. A text may be empty and a number
zero; an empty list of descriptors sets nothing. -/
structure Overridden (file : Settings) (o : Overrides) (s : Settings) : Prop where
  variants : (s.variants : Int) = o.variants.getD file.variants
  outputPath : s.outputPath = o.outputPath.getD file.outputPath
  descriptors : s.descriptors = (o.descriptors.filter (!·.isEmpty)).getD file.descriptors
  lineSeparator : s.lineSeparator = file.lineSeparator
  framework : s.framework = file.framework
  fileExtension : s.fileExtension = file.fileExtension

namespace Settings

variable {file s : Settings} {o : Overrides} {disk : Disk} {dir : Path} {e : Failure}

-- Settings of a project with a number of variants and what else is set over them.
private def replaced (file : Settings) (o : Overrides) (variants : Nat) : Settings :=
  { file with
    variants
    outputPath := o.outputPath.getD file.outputPath
    descriptors := (o.descriptors.filter (!·.isEmpty)).getD file.descriptors }

private theorem override_of_none (hn : o.variants = none) :
    file.override o = .ok (replaced file o file.variants) := by
  rcases o with ⟨_, outputPath, _ | _ | ⟨d, ds⟩⟩ <;> (cases hn; rfl)

private theorem override_of_negative {n : Int} (hn : o.variants = some n) (hneg : n < 0) :
    file.override o = .error (.negativeOverride n) := by
  rw [override, hn]
  exact if_pos hneg

private theorem override_of_nonneg {n : Int} (hn : o.variants = some n) (hneg : ¬ n < 0) :
    file.override o = .ok (replaced file o n.toNat) := by
  rw [override, hn]
  rcases o with ⟨_, outputPath, _ | _ | ⟨d, ds⟩⟩ <;> exact if_neg hneg

private theorem overridden_replaced {variants : Nat}
    (h : (variants : Int) = o.variants.getD file.variants) :
    replaced file o variants = s ↔ Overridden file o s := by
  constructor
  · rintro rfl
    exact ⟨h, rfl, rfl, rfl, rfl, rfl⟩
  · rintro ⟨hvariants, houtput, hdescriptors, hline, hframework, hextension⟩
    obtain rfl : variants = s.variants := Int.ofNat.inj (h.trans hvariants.symm)
    cases s
    cases file
    simp_all [replaced]

/-- What is set over settings replaces them, unless it is a negative number. -/
theorem override_eq_ok : file.override o = .ok s ↔ Overridden file o s := by
  cases hn : o.variants with
  | none => rw [override_of_none hn, Except.ok.injEq, overridden_replaced (by rw [hn]; rfl)]
  | some n =>
    by_cases hneg : n < 0
    · rw [override_of_negative hn hneg]
      constructor
      · nofun
      · intro h
        have hcount : (s.variants : Int) = n := by rw [h.variants, hn, Option.getD_some]
        omega
    · have hcount : (n.toNat : Int) = o.variants.getD file.variants := by
        rw [hn, Option.getD_some, Int.toNat_of_nonneg (Int.not_lt.mp hneg)]
      rw [override_of_nonneg hn hneg, Except.ok.injEq, overridden_replaced hcount]

/-- An override is refused exactly where its number of variants is negative. -/
theorem override_eq_error {problem : SettingsProblem} :
    file.override o = .error problem ↔
      ∃ n, o.variants = some n ∧ n < 0 ∧ problem = .negativeOverride n := by
  cases hn : o.variants with
  | none => simp [override_of_none hn]
  | some n =>
    by_cases hneg : n < 0
    · simp [override_of_negative hn hneg, hneg, eq_comm]
    · simp [override_of_nonneg hn hneg, hneg]

/-- The settings of a directory are those of its project with what is set over them. -/
theorem loadWith_eq_ok :
    loadWith disk dir o = .ok s ↔ ∃ file, load disk dir = .ok file ∧ Overridden file o s := by
  rw [loadWith, Outcome.bind_eq_ok]
  simp only [Outcome.mapError_eq_ok, override_eq_ok]

/-- Settings are refused where the project file is, or for a negative number. -/
theorem loadWith_eq_error :
    loadWith disk dir o = .error e ↔
      load disk dir = .error e ∨
        ∃ file n, load disk dir = .ok file ∧ o.variants = some n ∧ n < 0 ∧
          e = .settings (.negativeOverride n) := by
  rw [loadWith, Outcome.bind_eq_error]
  simp only [Outcome.mapError_eq_error, override_eq_error]
  refine or_congr_right (exists_congr fun file => ?_)
  constructor
  · rintro ⟨hfile, problem, ⟨n, hn, hneg, rfl⟩, rfl⟩
    exact ⟨n, hfile, hn, hneg, rfl⟩
  · rintro ⟨n, hfile, hn, hneg, rfl⟩
    exact ⟨hfile, _, ⟨n, hn, hneg, rfl⟩, rfl⟩

end Settings

namespace Handlers

variable {σ : Type} (h : Handlers (RunM σ))

/-- Acts fail with the failure of one of them. -/
theorem exists_act_of_carry {acts : List Act} {start : σ} {e : Failure}
    (hcarry : (h.carry acts start).1 = .error e) :
    ∃ a ∈ acts, ∃ s, ((h.act a).run s : Except Failure Unit × σ).1 = .error e := by
  induction acts generalizing start with
  | nil => cases hcarry
  | cons a acts ih =>
    rw [carry] at hcarry
    split at hcarry
    · next heq =>
      obtain ⟨a', ha', hfails⟩ := ih hcarry
      exact ⟨a', List.mem_cons_of_mem a ha', hfails⟩
    · next heq =>
      refine ⟨a, List.mem_cons_self, start, ?_⟩
      rw [heq]
      exact hcarry

end Handlers

namespace Generation

variable {disk : Disk} {dir : Path} {o : Overrides} {revise : Batch → Batch}

/-- A script fails with a failure of a run. -/
theorem script_failsOnly :
    Outcome.FailsOnly Failure.OfRun (script disk dir o revise).outcome := by
  intro e he
  cases hdraft : draft disk dir o revise with
  | error e' =>
    obtain ⟨settings, loads, n, hscript⟩ := script_of_error hdraft
    rw [hscript] at he
    cases he
    exact draft_failsOnly disk dir o revise e hdraft
  | ok found =>
    cases found with
    | none =>
      obtain ⟨settings, loads, -, -, -, hscript⟩ := script_of_none hdraft
      rw [hscript] at he
      cases he
    | some d =>
      rw [script_of_some hdraft] at he
      cases he

/-- A run that ends for a negative number of variants has been told so by its handlers. -/
theorem exists_act_of_negativeVariants {σ : Type} {h : Handlers (RunM σ)} {start : σ} {n : Int}
    (hrun : ((run disk dir o h revise).run start : Except Failure (List Path) × σ).1 =
      .error (.negativeVariants n)) :
    ∃ a ∈ (script disk dir o revise).acts, ∃ s,
      ((h.act a).run s : Except Failure Unit × σ).1 = .error (.negativeVariants n) := by
  rw [run_eq_carry] at hrun
  split at hrun
  · exact (script_failsOnly _ hrun).elim
  · next heq =>
    have hcarry : (h.carry (script disk dir o revise).acts start).1 =
        .error (.negativeVariants n) := by
      rw [heq]
      exact congrArg Except.error (Except.error.inj hrun)
    exact h.exists_act_of_carry hcarry

/-- Settings that a run takes are those of its project with what is set over them, and nothing else;
they ask for no negative number of variants and have a line separator. A negative number is refused
as soon as the project file has been read. So no run gets as far as asking for one, whatever its
handlers do. -/
theorem overrides_frame (disk : Disk) (dir : Path) (o : Overrides) :
    (∀ s, Settings.loadWith disk dir o = .ok s ↔
      ∃ file, Settings.load disk dir = .ok file ∧ Overridden file o s) ∧
    (∀ s, Settings.loadWith disk dir o = .ok s →
      0 ≤ (s.variants : Int) ∧ s.lineSeparator ≠ "" ∧ ∀ n, o.variants = some n → 0 ≤ n) ∧
    (∀ e, Settings.loadWith disk dir o = .error e ↔
      Settings.load disk dir = .error e ∨
        ∃ file n, Settings.load disk dir = .ok file ∧ o.variants = some n ∧ n < 0 ∧
          e = .settings (.negativeOverride n)) ∧
    ∀ (σ : Type) (h : Handlers (RunM σ)) (revise : Batch → Batch) (start : σ) (n : Int),
      ((run disk dir o h revise).run start : Except Failure (List Path) × σ).1 =
          .error (.negativeVariants n) →
        ∃ a ∈ (script disk dir o revise).acts, ∃ s,
          ((h.act a).run s : Except Failure Unit × σ).1 = .error (.negativeVariants n) := by
  refine ⟨fun s => Settings.loadWith_eq_ok, ?_, fun e => Settings.loadWith_eq_error,
    fun σ h revise start n => exists_act_of_negativeVariants⟩
  intro s hs
  obtain ⟨file, -, hover⟩ := Settings.loadWith_eq_ok.mp hs
  refine ⟨Int.natCast_nonneg s.variants, s.lineSeparator_ne_empty, ?_⟩
  intro n hn
  have hcount : (s.variants : Int) = n := by rw [hover.variants, hn, Option.getD_some]
  omega

end Generation
end TestSkeleton
