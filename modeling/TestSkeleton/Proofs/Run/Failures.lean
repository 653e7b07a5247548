import TestSkeleton.Proofs.Manifest.Faults
import TestSkeleton.Proofs.Run.Bodies
import TestSkeleton.Proofs.Run.Order

/-!
# Failures of phases

Which failures each phase of a run can meet. A disk has problems of its own; settings and manifests
add theirs. Faults can come from everywhere, and a negative number of variants from nowhere, since
checked settings have none.
-/

namespace TestSkeleton

namespace Outcome

variable {ε α β : Type} {P Q : ε → Prop}

/-- A computation fails in some ways only. -/
def FailsOnly (P : ε → Prop) (x : Except ε α) : Prop := ∀ e, x = .error e → P e

namespace FailsOnly

/-- A result is no failure. -/
theorem ok (a : α) : FailsOnly P (.ok a : Except ε α) := nofun

/-- A failure of a kind. -/
theorem error {e : ε} (h : P e) : FailsOnly P (.error e : Except ε α) := by
  rintro _ ⟨⟩
  exact h

/-- What fails only in one way fails only in any wider way. -/
theorem mono {x : Except ε α} (h : FailsOnly P x) (hPQ : ∀ e, P e → Q e) : FailsOnly Q x :=
  fun e he => hPQ e (h e he)

/-- A computation fails only as its parts do. -/
theorem bind {x : Except ε α} {f : α → Except ε β} (hx : FailsOnly P x)
    (hf : ∀ a, FailsOnly P (f a)) : FailsOnly P (x >>= f) := by
  intro e he
  rcases bind_eq_error.mp he with h | ⟨a, -, h⟩
  · exact hx e h
  · exact hf a e h

/-- Mapping the result adds no failure. -/
theorem map {x : Except ε α} {f : α → β} (hx : FailsOnly P x) : FailsOnly P (x.map f) :=
  fun e he => hx e (map_eq_error.mp he)

/-- Going through a list adds no failure. -/
theorem mapM {g : α → Except ε β} (h : ∀ a, FailsOnly P (g a)) (xs : List α) :
    FailsOnly P (xs.mapM g) := by
  intro e he
  obtain ⟨-, x, -, -, -, hx⟩ := mapM_eq_error.mp he
  exact h x e hx

end FailsOnly
end Outcome

open Outcome (FailsOnly)

namespace Failure

/-- The failures of a disk. -/
def OfDisk : Failure → Prop
  | disk _ _ | fault _ => True
  | _ => False

/-- The failures of settings. -/
def OfSettings : Failure → Prop
  | settings _ | disk _ _ | fault _ => True
  | _ => False

/-- The failures of manifests. -/
def OfManifest : Failure → Prop
  | manifest _ _ | disk _ _ | fault _ => True
  | _ => False

/-- Settings can fail as their disk does. -/
theorem OfDisk.ofSettings {e : Failure} (h : e.OfDisk) : e.OfSettings := by
  cases e <;> first | exact h.elim | trivial

/-- Manifests can fail as their disk does. -/
theorem OfDisk.ofManifest {e : Failure} (h : e.OfDisk) : e.OfManifest := by
  cases e <;> first | exact h.elim | trivial

variable {α : Type} {P : Failure → Prop}

/-- Faults are the only failures that come of faults. -/
theorem failsOnly_ofFault (h : ∀ f, P (.fault f)) (x : Except Fault α) :
    FailsOnly P (ofFault x) := by
  cases x with
  | error f => exact .error (h f)
  | ok a => exact .ok a

/-- A problem of settings is a failure of settings. -/
theorem failsOnly_mapError {x : Except SettingsProblem α} :
    FailsOnly OfSettings (x.mapError settings) := by
  cases x with
  | error problem => exact .error trivial
  | ok a => exact .ok a

end Failure

/-! ### Disks -/

namespace Disk

variable (d : Disk) (p : Path)

/-- Finding a path fails only as a disk does. -/
theorem find?_failsOnly : FailsOnly Failure.OfDisk (d.find? p) := by
  rw [find?]
  split
  · exact .ok _
  · split
    · exact .ok _
    · exact .error trivial
    · exact .ok _

/-- Asking for a file fails only as a disk does. -/
theorem isFile_failsOnly : FailsOnly Failure.OfDisk (d.isFile p) := (d.find?_failsOnly p).map

/-- Asking for a directory fails only as a disk does. -/
theorem isDirectory_failsOnly : FailsOnly Failure.OfDisk (d.isDirectory p) :=
  (d.find?_failsOnly p).map

/-- Reading fails only as a disk does. -/
theorem read_failsOnly : FailsOnly Failure.OfDisk (d.read p) := by
  rw [read]
  split
  · exact .error trivial
  · split
    · exact .error trivial
    · split
      · exact .ok _
      · exact .error trivial
      · exact .error trivial

/-- Adding an entry fails only as a disk does. -/
theorem add_failsOnly (e : Entry) : FailsOnly Failure.OfDisk (d.add p e) := by
  rw [add]
  split
  · exact .error trivial
  · split
    · exact .error trivial
    · split
      · split
        · exact .error trivial
        · exact .ok _
      · exact .error trivial

/-- Removing fails only as a disk does. -/
theorem remove_failsOnly : FailsOnly Failure.OfDisk (d.remove p) := by
  refine (d.find?_failsOnly p).bind fun found => ?_
  rcases found with _ | ⟨here, _ | content⟩
  · exact .ok _
  · exact .error trivial
  · exact .ok _

/-- Writing fails only as a disk does. -/
theorem write_failsOnly (content : ByteArray) : FailsOnly Failure.OfDisk (d.write p content) := by
  refine (d.find?_failsOnly p).bind fun found => ?_
  rcases found with _ | ⟨here, _ | old⟩
  · exact d.add_failsOnly p _
  · exact .error trivial
  · exact .ok _

private theorem acceptExisting_failsOnly {failure : Failure} (h : failure.OfDisk) :
    FailsOnly Failure.OfDisk (d.acceptExisting p failure) := by
  have hthere : FailsOnly Failure.OfDisk
      (do if ← d.isDirectory p then return () else throw failure : Except Failure Unit) := by
    refine (d.isDirectory_failsOnly p).bind fun there => ?_
    cases there with
    | true => exact .ok _
    | false => exact .error h
  rw [acceptExisting.eq_def]
  split
  · exact .error h
  · exact hthere
  · exact .error h

private theorem makeLast_failsOnly : FailsOnly Failure.OfDisk (d.makeLast p).1 := by
  have hadd := d.add_failsOnly p .directory
  rw [makeLast]
  split
  · exact .ok _
  · next e he => exact d.acceptExisting_failsOnly p (hadd e he)

/-- Making directories fails only as a disk does. -/
theorem makeDirs_failsOnly : FailsOnly Failure.OfDisk (d.makeDirs p).1 := by
  fun_induction makeDirs d p with
  | case1 p made hadd => exact .ok _
  | case2 p q hadd hroot => exact .error trivial
  | case3 p q hadd hroot e made hmade ih =>
    rw [hmade] at ih
    exact .error (ih e rfl)
  | case4 p q hadd hroot made hmade ih => exact made.makeLast_failsOnly p
  | case5 p e hne hadd => exact d.acceptExisting_failsOnly p (d.add_failsOnly p _ e hadd)

/-- Calls on a disk fail as the disk does. -/
theorem after_failsOnly (c : Call) : FailsOnly Failure.OfDisk (d.after c).1 := by
  have hstep : ∀ {x : Except Failure Disk}, FailsOnly Failure.OfDisk x →
      FailsOnly Failure.OfDisk (d.step x).1 := by
    intro x hx
    cases x with
    | error e => exact .error (hx e rfl)
    | ok made => exact .ok _
  cases c with
  | remove p => exact hstep (d.remove_failsOnly p)
  | makeDirs p => exact d.makeDirs_failsOnly p
  | create p => exact hstep (d.add_failsOnly p _)
  | writeRecords p records terminator => exact hstep (d.write_failsOnly p _)

end Disk

/-! ### Settings -/

namespace Settings

variable (disk : Disk) (dir : Path)

/-- Looking for a project fails only as a disk does. -/
theorem project?_failsOnly : FailsOnly Failure.OfDisk (project? disk dir) := by
  have hfirst : ∀ dirs, FailsOnly Failure.OfDisk (firstProject? disk dirs) := by
    intro dirs
    induction dirs with
    | nil => exact .ok _
    | cons dir rest ih =>
      refine (disk.isFile_failsOnly _).bind fun found => ?_
      cases found with
      | true => exact .ok _
      | false => exact ih
  exact hfirst _

private theorem section_failsOnly (v : Value) (key : String) :
    FailsOnly Failure.OfSettings (section_ v key) := by
  rw [section_.eq_def]
  split
  · exact .ok _
  · exact .error trivial

private theorem ofValue_failsOnly (v : Value) : FailsOnly Failure.OfSettings (ofValue v) := by
  rw [ofValue]
  split
  · exact Failure.failsOnly_mapError.bind fun checked =>
      (Failure.failsOnly_ofFault (fun _ => trivial) _).bind fun shown => .ok _
  · exact .error trivial

/-- Reading a project file fails only as settings do. -/
theorem parse_failsOnly (path : Path) (content : ByteArray) :
    FailsOnly Failure.OfSettings (parse path content) := by
  rw [parse]
  split
  · exact .error trivial
  · split
    · exact .error trivial
    · exact .error trivial
    · exact (section_failsOnly _ _).bind fun tool =>
        (section_failsOnly _ _).bind fun table => ofValue_failsOnly table

/-- Loading settings with overrides fails only as settings do. -/
theorem loadWith_failsOnly (o : Overrides) : FailsOnly Failure.OfSettings (loadWith disk dir o) := by
  have hload : FailsOnly Failure.OfSettings (load disk dir) := by
    refine ((project?_failsOnly disk dir).mono fun _ => Failure.OfDisk.ofSettings).bind
      fun found => ?_
    cases found with
    | none => exact .ok _
    | some project =>
      exact ((disk.read_failsOnly _).mono fun _ => Failure.OfDisk.ofSettings).bind fun content =>
        parse_failsOnly _ content
  exact hload.bind fun settings => Failure.failsOnly_mapError

end Settings

/-! ### Manifests -/

namespace Manifest

open Java

variable (path : Path) (owner : String) (entries : Entries) (v : Value)

private theorem asMapping_failsOnly (problem : ManifestProblem) :
    FailsOnly Failure.OfManifest (asMapping (.manifest path problem) v) := by
  intro e he
  rw [asMapping_eq_error he]
  trivial

private theorem listOf_failsOnly (problem : ManifestProblem) (key : String) :
    FailsOnly Failure.OfManifest (listOf (.manifest path problem) entries key) := by
  intro e he
  rw [listOf_eq_error he]
  trivial

private theorem nameOf_failsOnly (problem : ManifestProblem) :
    FailsOnly Failure.OfManifest (nameOf (.manifest path problem) entries) := by
  intro e he
  rw [nameOf_eq_error he]
  trivial

private theorem textOf_failsOnly (key default : String) :
    FailsOnly Failure.OfManifest (textOf entries key default) := by
  rw [textOf]
  split
  · exact .ok _
  · exact Failure.failsOnly_ofFault (fun _ => trivial) _

private theorem parameter_failsOnly : FailsOnly Failure.OfManifest (parameter path owner v) := by
  refine (asMapping_failsOnly path v _).bind fun entries => ?_
  split
  · exact (Failure.failsOnly_ofFault (fun _ => trivial) _).bind fun name =>
      (Failure.failsOnly_ofFault (fun _ => trivial) _).bind fun type => .ok _
  · exact .error trivial

private theorem visibility_failsOnly (name : String) :
    FailsOnly Failure.OfManifest (visibility path owner name entries) := by
  refine (textOf_failsOnly entries _ _).bind fun text => ?_
  dsimp only
  split
  · exact .ok _
  · exact .error trivial

private theorem method_failsOnly : FailsOnly Failure.OfManifest (method path owner v) :=
  (asMapping_failsOnly path v _).bind fun entries =>
    (nameOf_failsOnly path entries _).bind fun name =>
      (visibility_failsOnly path owner entries name).bind fun _ =>
        (listOf_failsOnly path entries _ _).bind fun items =>
          (FailsOnly.mapM (parameter_failsOnly path _) items).bind fun _ =>
            (textOf_failsOnly entries _ _).bind fun _ => .ok _

private theorem classInfo_failsOnly : FailsOnly Failure.OfManifest (classInfo path v) :=
  (asMapping_failsOnly path v _).bind fun entries =>
    (nameOf_failsOnly path entries _).bind fun name =>
      (listOf_failsOnly path entries _ _).bind fun items =>
        (FailsOnly.mapM (method_failsOnly path name) items).bind fun _ =>
          (listOf_failsOnly path entries _ _).bind fun items' =>
            (FailsOnly.mapM (parameter_failsOnly path name) items').bind fun _ => .ok _

private theorem decode_failsOnly : FailsOnly Failure.OfManifest (decode path v) := by
  rw [decode.eq_def]
  split
  · exact .ok _
  · exact (asMapping_failsOnly path _ _).bind fun entries =>
      (listOf_failsOnly path entries _ _).bind fun items =>
        FailsOnly.mapM (classInfo_failsOnly path) items

private theorem classesOf_failsOnly (format : Format) (content : ByteArray) :
    FailsOnly Failure.OfManifest (classesOf format path content) := by
  have hparse : FailsOnly Failure.OfManifest (parse format path content) := by
    rw [parse]
    split
    · exact .ok _
    · exact .error trivial
    · exact .error trivial
  exact hparse.bind fun v => decode_failsOnly path v

private theorem loadFile_failsOnly (disk : Disk) :
    FailsOnly Failure.OfManifest (loadFile disk path) := by
  have hread := disk.read_failsOnly path
  unfold loadFile
  split
  · exact .error trivial
  · split
    · exact classesOf_failsOnly path _ _
    · exact .error trivial
    · next e _ he => exact .error (hread e he).ofManifest

/-- Loading manifests fails only as manifests do. -/
theorem load_failsOnly (disk : Disk) : FailsOnly Failure.OfManifest (load disk path) := by
  cases hfound : disk.find? path with
  | error e =>
    have he := (disk.find?_failsOnly path e hfound).ofManifest
    rw [load, Disk.pathExists, hfound]
    exact .error he
  | ok found =>
    rw [load_of_find hfound]
    rcases found with _ | ⟨here, _ | content⟩
    · exact .error trivial
    · have hclasses : ∀ m : Format × Path × ByteArray,
          FailsOnly Failure.OfManifest (classesOf m.1 m.2.1 m.2.2) := fun m =>
        classesOf_failsOnly m.2.1 m.1 m.2.2
      exact (FailsOnly.mapM hclasses _).map
    · exact loadFile_failsOnly path disk

end Manifest

/-! ### Runs -/

/-- A checked batch has as many bodies as targets. -/
theorem Batch.length_eq_of_check {b : Batch} (h : b.check = .ok ()) :
    b.bodies.length = b.targets.length := by
  rw [check] at h
  split at h
  · assumption
  · cases h

/-- A check fails on two sizes. -/
theorem Batch.check_eq_error {b : Batch} {e : Failure} :
    b.check = .error e ↔ b.bodies.length ≠ b.targets.length ∧
      e = .batchSizes b.bodies.length b.targets.length := by
  rw [check]
  split
  · next h => simp [h]
  · next h => simp [h, eq_comm]

namespace Failure

/-- The failures of a run: every one but a negative number of variants. -/
def OfRun : Failure → Prop
  | negativeVariants _ => False
  | _ => True

/-- Runs can fail as their disk does. -/
theorem OfDisk.ofRun {e : Failure} (h : e.OfDisk) : e.OfRun := by
  cases e <;> first | exact h.elim | trivial

/-- Runs can fail as settings do. -/
theorem OfSettings.ofRun {e : Failure} (h : e.OfSettings) : e.OfRun := by
  cases e <;> first | exact h.elim | trivial

/-- Runs can fail as manifests do. -/
theorem OfManifest.ofRun {e : Failure} (h : e.OfManifest) : e.OfRun := by
  cases e <;> first | exact h.elim | trivial

end Failure

namespace Generation

variable {disk : Disk} {root : Path} {o : Overrides} {revise : Batch → Batch}

/-- Making a runner fails only for a framework that is not known. -/
theorem runner_failsOnly (root : Path) (s : Settings) (revise : Batch → Batch) :
    FailsOnly (fun e => ∃ name known, e = .settings (.unknownFramework name known))
      (runner root s revise) := by
  refine FailsOnly.bind ?_ fun f => .ok _
  rw [framework]
  split
  · exact .ok _
  · exact .error ⟨_, _, rfl⟩

/-- What keeps a run from its first call is a failure of a run. -/
theorem draft_failsOnly (disk : Disk) (root : Path) (o : Overrides) (revise : Batch → Batch) :
    FailsOnly Failure.OfRun (draft disk root o revise) := by
  intro e he
  cases draft_eq_error.mp he with
  | settings h => exact (Settings.loadWith_failsOnly disk root o e h).ofRun
  | framework s hs h =>
    obtain ⟨name, known, rfl⟩ := runner_failsOnly root s revise e h
    trivial
  | manifest s r before after entry hs hr split loaded h =>
    exact (Manifest.load_failsOnly _ disk e h).ofRun
  | body l before after c hl split assembled h =>
    obtain ⟨f, rfl, -⟩ := Runner.body_eq_error.mp h
    trivial
  | sizes l bodies hl nonempty assembled h =>
    obtain ⟨hne, rfl⟩ := Batch.check_eq_error.mp h
    trivial

end Generation
end TestSkeleton
