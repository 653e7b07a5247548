import TestSkeleton.Proofs.Manifest.Faults
import TestSkeleton.Proofs.Run.Failures
import TestSkeleton.Proofs.Run.Messaging
import TestSkeleton.Proofs.Settings.Faults

/-!
# What no check catches

Runs to which nobody listens, by their drafts: a run fails as its draft does, or writes its batch.
From this follow the faults of runs. There are four kinds, and the main statement says that a run
ends with a fault exactly where one of them is there: in the settings, in a manifest, in a simple
name, or in a target with a null character. One of the faults of a manifest is a text that no file
can hold.

Specification: `SPEC_FULL.md:196–198`, `SPEC_FULL.md:214` and `SPEC_FULL.md:234–235`.
-/

namespace TestSkeleton

open Java
open Outcome (FirstWith)

namespace Disk

/-- Acts on a disk to which nobody listens are its calls. -/
theorem carry_handlers (acts : List Act) (d : Disk) :
    handlers.carry acts d = ((acts.filterMap Act.call?).forM adapter.perform).run d := by
  induction acts generalizing d with
  | nil => rfl
  | cons a acts ih =>
    cases a with
    | tell msg => exact ih d
    | make c =>
      have hact : ((handlers.act (.make c)).run d : Except Failure Unit × Disk) = d.after c := rfl
      have hperform : ((adapter.perform c).run d : Except Failure Unit × Disk) = d.after c := rfl
      rw [Handlers.carry, hact, List.filterMap_cons]
      dsimp only [Act.call?]
      rw [List.forM_eq_forM, List.forM_cons, RunM.run_bind, hperform]
      rcases d.after c with ⟨e | ⟨⟩, next⟩
      · rfl
      · exact ih next

variable {d d' : Disk} {terminator : String} {e : Failure}

/-- A file fails as the disk does. -/
theorem ofDisk_of_failsAt {f : String × Path} (h : adapter.FailsAt terminator f d e d') :
    e.OfDisk := by
  obtain ⟨made, c, left, mid, -, -, hc⟩ := h
  exact mid.after_failsOnly c e (congrArg Prod.fst hc)

end Disk

namespace Generation

variable {disk dir : _} {o : Overrides} {revise : Batch → Batch} {d : Draft} {e : Failure} {f : Fault}

/-! ### Runs by their drafts -/

/-- A run without a draft fails as the draft does, and the disk stays. -/
theorem silent_of_error (h : draft disk dir o revise = .error e) :
    (run disk dir o Disk.handlers revise).run disk = (.error e, disk) := by
  obtain ⟨settings, loads, n, hs⟩ := script_of_error h
  rw [run_eq_carry, hs, Disk.carry_handlers, Act.filterMap_call?_tell]
  rfl

/-- A run that finds no classes returns nothing, and the disk stays. -/
theorem silent_of_none (h : draft disk dir o revise = .ok none) :
    (run disk dir o Disk.handlers revise).run disk = (.ok [], disk) := by
  obtain ⟨settings, loads, -, -, -, hs⟩ := script_of_none h
  rw [run_eq_carry, hs, Disk.carry_handlers, Act.filterMap_call?_tell]
  rfl

/-- A run with a draft writes its batch. -/
theorem silent_of_some (h : draft disk dir o revise = .ok (some d)) :
    (run disk dir o Disk.handlers revise).run disk =
      (d.batch.write Disk.adapter.perform d.settings.lineSeparator).run disk := by
  have hcalls : d.acts.filterMap Act.call? = d.batch.calls d.settings.lineSeparator := by
    rw [Draft.acts, List.filterMap_append, List.filterMap_append, Act.filterMap_call?_tell,
      Act.filterMap_call?_tell, Act.filterMap_call?_make, List.nil_append, List.append_nil]
  have hwrite : d.batch.write Disk.adapter.perform d.settings.lineSeparator =
      (d.batch.calls d.settings.lineSeparator).forM Disk.adapter.perform >>= fun _ =>
        pure d.batch.targets := by
    rw [Batch.write, (validated_of_draft h).sizes]
    rfl
  rw [run_eq_carry, script_of_some h, Disk.carry_handlers, hcalls, hwrite, RunM.run_bind]
  rcases ((d.batch.calls d.settings.lineSeparator).forM Disk.adapter.perform).run disk with
    ⟨e | ⟨⟩, left⟩
  · rfl
  · rfl

/-- A run with a draft writes all of its files and returns their targets, or it ends with the first
file that fails. -/
theorem silent_of_draft (h : draft disk dir o revise = .ok (some d)) :
    (∃ left, (run disk dir o Disk.handlers revise).run disk = (.ok d.batch.targets, left) ∧
      Disk.adapter.Succeeds disk
        (Batch.callsOf d.settings.lineSeparator (d.batch.bodies.zip d.batch.targets)) left) ∨
    ∃ done file rest mid e left, d.batch.bodies.zip d.batch.targets = done ++ file :: rest ∧
      Disk.adapter.Succeeds disk (Batch.callsOf d.settings.lineSeparator done) mid ∧
      Disk.adapter.FailsAt d.settings.lineSeparator file mid e left ∧
      (run disk dir o Disk.handlers revise).run disk = (.error e, left) := by
  have hlen := Batch.length_eq_of_check (validated_of_draft h).sizes
  rw [silent_of_some h]
  rcases Disk.adapter.succeeds_or_failsAt d.settings.lineSeparator
    (d.batch.bodies.zip d.batch.targets) disk with
    ⟨left, hall⟩ | ⟨done, file, rest, mid, e, left, hfiles, hdone, hfail⟩
  · exact .inl ⟨left, Batch.write_of_succeeds hlen hall, hall⟩
  · exact .inr ⟨done, file, rest, mid, e, left, hfiles, hdone, hfail,
      hfail.write hlen hfiles hdone⟩

/-- A run fails as its draft does, or at a file of its batch, after the files before it. -/
theorem draft_or_file_of_silent
    (h : ((run disk dir o Disk.handlers revise).run disk : Except Failure (List Path) × Disk).1 =
      .error e) :
    draft disk dir o revise = .error e ∨
      ∃ d done file rest mid left, draft disk dir o revise = .ok (some d) ∧
        d.batch.bodies.zip d.batch.targets = done ++ file :: rest ∧
        Disk.adapter.Succeeds disk (Batch.callsOf d.settings.lineSeparator done) mid ∧
        Disk.adapter.FailsAt d.settings.lineSeparator file mid e left := by
  cases hdraft : draft disk dir o revise with
  | error e' =>
    rw [silent_of_error hdraft] at h
    cases h
    exact .inl rfl
  | ok found =>
    cases found with
    | none =>
      rw [silent_of_none hdraft] at h
      cases h
    | some d =>
      rcases silent_of_draft hdraft with
        ⟨left, hrun, -⟩ | ⟨done, file, rest, mid, e', left, hfiles, hdone, hfail, hrun⟩
      · rw [hrun] at h
        cases h
      · rw [hrun] at h
        cases h
        exact .inr ⟨d, done, file, rest, mid, left, rfl, hfiles, hdone, hfail⟩

end Generation
end TestSkeleton
