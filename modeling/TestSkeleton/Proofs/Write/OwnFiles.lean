import TestSkeleton.Proofs.Java.TargetSegments
import TestSkeleton.Proofs.Write.LastBody

/-!
# Files of their own

Classes with different qualified names have different targets, so that no test overwrites another
one. The main statement is about a whole run on a ledger.
-/

namespace TestSkeleton.Runner

open Java

/-- Where all targets differ, every class finds its own body at its target. -/
theorem text?_of_nodup_targets {r : Runner} {classes : List ClassInfo} {bodies : List String}
    {k : Nat} (htargets : (classes.map r.placement.target).Nodup)
    (hbodies : classes.mapM (r.body · k) = .ok bodies) (l : Ledger) {c : ClassInfo}
    (hc : c ∈ classes) :
    ∃ body, r.body c k = .ok body ∧
      (l.recordAll (Batch.calls r.terminator
          { bodies, targets := classes.map r.placement.target })).text? (r.placement.target c) =
        some (Records.join r.terminator (Records.split body)) := by
  obtain ⟨before, after, rfl⟩ := List.append_of_mem hc
  obtain ⟨bs, bs', hbs, hbs', rfl⟩ := Outcome.mapM_append_eq_ok.mp hbodies
  obtain ⟨body, bs'', hbody, -, rfl⟩ := Outcome.mapM_cons_eq_ok.mp hbs'
  refine ⟨body, hbody, ?_⟩
  rw [List.map_append, List.map_cons] at htargets ⊢
  have hlast : r.placement.target c ∉ after.map r.placement.target :=
    (List.nodup_cons.mp (List.nodup_append.mp htargets).2.1).1
  have hlen : bs.length = (before.map r.placement.target).length := by
    rw [Outcome.length_of_mapM hbs, List.length_map]
  exact Ledger.text?_calls_of_last hlen hlast l r.terminator body

/-- Classes with different qualified names have different targets. Where their simple names are
names, so that every class has a body, a run on a ledger leaves each class the records of its own
body at its own target. -/
theorem run_keeps_every_body (r : Runner) (classes : List ClassInfo) (k : Nat) (l : Ledger)
    (hsep : r.placement.separator = "/") (hext : '/' ∉ r.placement.extension.toList)
    (hnames : (classes.map ClassInfo.canonicalName).Nodup)
    (hqualified : ∀ c ∈ classes, IsQualified c.canonicalName) :
    (classes.map r.placement.target).Nodup ∧
      ((∀ c ∈ classes, ∃ name, Name.ofValue c.simpleName = .ok name) →
        ∃ l', ({ r with revise := id }.run Ledger.handlers classes k).run l =
            (.ok (classes.map r.placement.target), l') ∧
          ∀ c ∈ classes, ∃ body, r.body c k = .ok body ∧
            l'.text? (r.placement.target c) =
              some (Records.join r.terminator (Records.split body))) := by
  have htargets := Placement.nodup_targets hsep hext hnames hqualified
  refine ⟨htargets, fun hsimple => ?_⟩
  obtain ⟨bodies, hbodies⟩ : ∃ bodies, classes.mapM (r.body · k) = .ok bodies :=
    Outcome.mapM_ok_of_forall fun c hc => exists_body_iff.mpr (hsimple c hc)
  have hlen : bodies.length = (classes.map r.placement.target).length := by
    rw [Outcome.length_of_mapM hbodies, List.length_map]
  have hbatch : ({ r with revise := id } : Runner).checkedBatch classes k =
      .ok { bodies, targets := classes.map r.placement.target } :=
    checkedBatch_eq_ok.mpr ⟨bodies, hbodies, rfl, if_pos hlen⟩
  exact ⟨_, Ledger.run_of_checkedBatch hbatch l,
    fun c hc => text?_of_nodup_targets htargets hbodies l hc⟩

/-- Names that differ only in where their dots stand, or in a part that comes last, do not meet. -/
theorem run_keeps_every_body_of_three :
    let r : Runner := {
      outline := .ofFramework .junit5 "\n"
      placement := { base := "/p", outputRoot := "out/../t", extension := ".x.java" }
      terminator := "\n" }
    let classes : List ClassInfo :=
      [{ canonicalName := "a.B" }, { canonicalName := "aB" }, { canonicalName := "a.B.BTest" }]
    (classes.map r.placement.target).Nodup ∧
      ∃ l', (r.run Ledger.handlers classes 2).run {} =
          (.ok (classes.map r.placement.target), l') ∧
        ∀ c ∈ classes, ∃ body, r.body c 2 = .ok body ∧
          l'.text? (r.placement.target c) = some (Records.join "\n" (Records.split body)) := by
  intro r classes
  obtain ⟨htargets, hrun⟩ := run_keeps_every_body r classes 2 {} rfl (by decide) (by decide)
    (by decide)
  refine ⟨htargets, hrun ?_⟩
  intro c hc
  simp only [classes, List.mem_cons, List.not_mem_nil, or_false] at hc
  rcases hc with rfl | rfl | rfl
  · exact ⟨_, rfl⟩
  · exact ⟨_, rfl⟩
  · exact ⟨_, rfl⟩

end TestSkeleton.Runner
