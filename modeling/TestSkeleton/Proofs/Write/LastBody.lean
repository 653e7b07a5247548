import TestSkeleton.Proofs.Run.Bodies
import TestSkeleton.Proofs.Run.Draft
import TestSkeleton.Write.Ledger

/-!
# The last body of a file

What a run leaves in a ledger. Every call is recorded, the last body for a path is its text, and
paths that are no targets keep theirs. The step is one file of a batch, which takes four calls.

Specification: `SPEC_FULL.md:59`.
-/

namespace TestSkeleton

open Java

namespace Ledger

/-- The ledger after calls. -/
def recordAll (l : Ledger) (calls : List Call) : Ledger := calls.foldl record l

/-- No calls record nothing. -/
@[simp] theorem recordAll_nil (l : Ledger) : l.recordAll [] = l := rfl

/-- Calls are recorded one after the other. -/
@[simp] theorem recordAll_cons (l : Ledger) (c : Call) (calls : List Call) :
    l.recordAll (c :: calls) = (l.record c).recordAll calls := rfl

/-- Calls after calls are recorded after them. -/
theorem recordAll_append (l : Ledger) (calls calls' : List Call) :
    l.recordAll (calls ++ calls') = (l.recordAll calls).recordAll calls' :=
  List.foldl_append

/-- Directories are no files. -/
theorem text?_record_makeDirs (l : Ledger) (p q : Path) :
    (l.record (.makeDirs q)).text? p = l.text? p := rfl

/-- The calls for a file give it the records of its body. -/
theorem text?_callsFor_self (l : Ledger) (terminator body : String) (p : Path) :
    (l.recordAll (Batch.callsFor terminator body p)).text? p =
      some (Records.join terminator (Records.split body)) := by
  rw [Batch.callsFor, recordAll_cons, recordAll_cons, recordAll_cons, recordAll_cons,
    recordAll_nil, text?_record_writeRecords]

/-- The calls for a file change no other file. -/
theorem text?_callsFor_of_ne {p target : Path} (h : p ≠ target) (l : Ledger)
    (terminator body : String) :
    (l.recordAll (Batch.callsFor terminator body target)).text? p = l.text? p := by
  rw [Batch.callsFor, recordAll_cons, recordAll_cons, recordAll_cons, recordAll_cons,
    recordAll_nil, text?_record_of_ne h, text?_record_of_ne h, text?_record_makeDirs,
    text?_record_of_ne h]

/-- A batch changes no file that is not one of its targets. -/
theorem text?_calls_of_not_mem {p : Path} {targets : List Path} (h : p ∉ targets) (l : Ledger)
    (terminator : String) (bodies : List String) :
    (l.recordAll (Batch.calls terminator ⟨bodies, targets⟩)).text? p = l.text? p := by
  induction bodies generalizing targets l with
  | nil => rw [Batch.calls_nil, recordAll_nil]
  | cons body bodies ih =>
    cases targets with
    | nil => rfl
    | cons target targets =>
      rw [List.mem_cons, not_or] at h
      rw [Batch.calls_cons, recordAll_append, ih h.2, text?_callsFor_of_ne h.1]

/-- The last body for a path is its text after a batch. -/
theorem text?_calls_of_last {p : Path} {bodies bodies' : List String} {targets targets' : List Path}
    (hlen : bodies.length = targets.length) (hlast : p ∉ targets') (l : Ledger)
    (terminator body : String) :
    (l.recordAll (Batch.calls terminator
        ⟨bodies ++ body :: bodies', targets ++ p :: targets'⟩)).text? p =
      some (Records.join terminator (Records.split body)) := by
  induction bodies generalizing targets l with
  | nil =>
    obtain rfl := List.length_eq_zero_iff.mp hlen.symm
    rw [List.nil_append, List.nil_append, Batch.calls_cons, recordAll_append,
      text?_calls_of_not_mem hlast, text?_callsFor_self]
  | cons b bodies ih =>
    cases targets with
    | nil => cases hlen
    | cons target targets =>
      rw [List.cons_append, List.cons_append, Batch.calls_cons, recordAll_append]
      exact ih (Nat.succ.inj hlen) _

/-! ### Runs on a ledger -/

/-- A ledger as the adapter of a run to which nobody listens. -/
def handlers : Handlers (RunM Ledger) where
  perform := perform
  announce _ := pure ()

/-- A ledger records the calls among any acts, and never fails. -/
theorem carry_eq (acts : List Act) (l : Ledger) :
    handlers.carry acts l = (.ok (), l.recordAll (acts.filterMap Act.call?)) := by
  induction acts generalizing l with
  | nil => rfl
  | cons a acts ih =>
    cases a with
    | tell msg => exact ih l
    | make c => exact ih (l.record c)

/-- A run with a checked batch records the calls of the batch. -/
theorem run_of_checkedBatch {r : Runner} {classes : List ClassInfo} {variants : Int} {b : Batch}
    (h : r.checkedBatch classes variants = .ok b) (l : Ledger) :
    (r.run handlers classes variants).run l =
      (.ok b.targets, l.recordAll (b.calls r.terminator)) := by
  rw [← Script.play_runner, Script.run_play, Script.runner_of_ok h, carry_eq]
  simp only [List.filterMap_append, Act.filterMap_call?_tell, Act.filterMap_call?_make,
    List.nil_append, List.append_nil]

/-- A run without a checked batch records nothing. -/
theorem run_of_checkedBatch_error {r : Runner} {classes : List ClassInfo} {variants : Int}
    {e : Failure} (h : r.checkedBatch classes variants = .error e) (l : Ledger) :
    (r.run handlers classes variants).run l = (.error e, l) := by
  rw [← Script.play_runner, Script.run_play, Script.runner_of_error h, carry_eq]
  simp only [Act.filterMap_call?_tell, recordAll_nil]

end Ledger

namespace Runner

private theorem exists_last {f : ClassInfo → Path} {classes : List ClassInfo} {p : Path}
    (h : p ∈ classes.map f) :
    ∃ before c after, classes = before ++ c :: after ∧ f c = p ∧ p ∉ after.map f := by
  induction classes with
  | nil => cases h
  | cons c classes ih =>
    by_cases hp : p ∈ classes.map f
    · obtain ⟨before, c', after, rfl, hc', hlast⟩ := ih hp
      exact ⟨c :: before, c', after, rfl, hc', hlast⟩
    · rw [List.map_cons, List.mem_cons] at h
      rcases h with h | h
      · exact ⟨[], c, classes, rfl, h.symm, hp⟩
      · exact absurd h hp

/-- A run on a ledger returns the targets of all classes in order and leaves at each of them the
records of the body of the last class with that target; all other files stay. A batch whose sizes
differ after a revision is refused with both sizes, and the ledger stays as it was. -/
theorem run_on_ledger (r : Runner) (classes : List ClassInfo) (k : Nat) (l : Ledger)
    (h : ∀ c ∈ classes, ∃ s, c.simpleName = .text s) :
    ∃ bodies, classes.mapM (r.body · k) = .ok bodies ∧
      (∃ l', ({ r with revise := id }.run Ledger.handlers classes k).run l =
          (.ok (classes.map r.placement.target), l') ∧
        (∀ p ∈ classes.map r.placement.target,
          ∃ before c after body, classes = before ++ c :: after ∧ r.placement.target c = p ∧
            p ∉ after.map r.placement.target ∧ r.body c k = .ok body ∧
            l'.text? p = some (Records.join r.terminator (Records.split body))) ∧
        (∀ p ∉ classes.map r.placement.target, l'.text? p = l.text? p)) ∧
      (∀ revise b, revise { bodies, targets := classes.map r.placement.target } = b →
        b.bodies.length ≠ b.targets.length →
        ({ r with revise }.run Ledger.handlers classes k).run l =
          (.error (.batchSizes b.bodies.length b.targets.length), l)) := by
  obtain ⟨bodies, hbodies⟩ : ∃ bodies, classes.mapM (r.body · k) = .ok bodies := by
    refine Outcome.mapM_ok_of_forall fun c hc => ?_
    obtain ⟨s, hs⟩ := h c hc
    exact r.body_of_text hs k
  refine ⟨bodies, hbodies, ?_, ?_⟩
  · have hlen : bodies.length = (classes.map r.placement.target).length := by
      rw [Outcome.length_of_mapM hbodies, List.length_map]
    have hbatch : ({ r with revise := id } : Runner).checkedBatch classes k =
        .ok { bodies, targets := classes.map r.placement.target } :=
      checkedBatch_eq_ok.mpr ⟨bodies, hbodies, rfl, if_pos hlen⟩
    refine ⟨_, Ledger.run_of_checkedBatch hbatch l, ?_, ?_⟩
    · intro p hp
      obtain ⟨before, c, after, rfl, hc, hlast⟩ := exists_last hp
      obtain ⟨bs, bs', hbs, hbs', rfl⟩ := Outcome.mapM_append_eq_ok.mp hbodies
      obtain ⟨body, bs'', hbody, -, rfl⟩ := Outcome.mapM_cons_eq_ok.mp hbs'
      refine ⟨before, c, after, body, rfl, hc, hlast, hbody, ?_⟩
      have hbefore : bs.length = (before.map r.placement.target).length := by
        rw [Outcome.length_of_mapM hbs, List.length_map]
      rw [List.map_append, List.map_cons, hc]
      exact Ledger.text?_calls_of_last hbefore hlast l r.terminator body
    · intro p hp
      exact Ledger.text?_calls_of_not_mem hp l r.terminator bodies
  · rintro revise b rfl hne
    have hbatch : ({ r with revise } : Runner).checkedBatch classes k = _ :=
      checkedBatch_eq_error.mpr (.inr ⟨bodies, hbodies, if_neg hne⟩)
    exact Ledger.run_of_checkedBatch_error hbatch l

/-- Of two classes with one canonical name the second one leaves its body. -/
theorem run_on_ledger_same_target :
    let r : Runner := {
      outline := .ofFramework .junit5 "\n", placement := { base := "/p", outputRoot := "t" }
      terminator := "\n" }
    let first : ClassInfo := { canonicalName := "a.B" }
    let second : ClassInfo := { canonicalName := "a.B", methods := [{ name := "run" }] }
    ∃ l' body, (r.run Ledger.handlers [first, second] 1).run {} =
        (.ok [r.placement.target first, r.placement.target first], l') ∧
      r.body second 1 = .ok body ∧
      l'.text? (r.placement.target first) =
        some (Records.join "\n" (Records.split body)) := by
  intro r first second
  have htexts : ∀ c ∈ [first, second], ∃ s, c.simpleName = .text s := by
    intro c hc
    simp only [List.mem_cons, List.not_mem_nil, or_false] at hc
    rcases hc with rfl | rfl
    · exact ⟨_, rfl⟩
    · exact ⟨_, rfl⟩
  obtain ⟨bodies, -, ⟨l', hrun, htext, -⟩, -⟩ := run_on_ledger r [first, second] 1 {} htexts
  obtain ⟨before, c, after, body, hsplit, -, hlast, hbody, hp⟩ :=
    htext (r.placement.target first) (by simp)
  have hc : c = second := by
    rcases before with _ | ⟨b, before⟩
    · obtain ⟨-, rfl⟩ := List.cons.inj hsplit
      exact absurd (List.mem_singleton.mpr rfl) hlast
    · obtain ⟨-, hsplit⟩ := List.cons.inj hsplit
      rcases before with _ | ⟨b', before⟩
      · exact (List.cons.inj hsplit).1.symm
      · exact absurd (List.cons.inj hsplit).2 (by simp)
  subst hc
  exact ⟨l', body, hrun, hbody, hp⟩

end Runner
end TestSkeleton
