import TestSkeleton.Proofs.Write.Progress

/-!
# The calls of a batch on any adapter

What an adapter is asked for when a batch is written. The plan of a batch has four calls for each
file, in the order of the files. The main statement says that the calls are a beginning of the plan,
which ends where a call fails, and that nothing else is asked for.

Specification: `SPEC_FULL.md:53–55`.
-/

namespace TestSkeleton.Batch

/-- A batch of one size has four calls for each file. -/
theorem length_calls {bodies : List String} {targets : List Path}
    (h : bodies.length = targets.length) (terminator : String) :
    (calls terminator ⟨bodies, targets⟩).length = 4 * targets.length := by
  induction bodies generalizing targets with
  | nil =>
    obtain rfl := List.length_eq_zero_iff.mp h.symm
    rfl
  | cons body bodies ih =>
    cases targets with
    | nil => cases h
    | cons target targets =>
      rw [calls_cons, List.length_append, length_callsFor, ih (Nat.succ.inj h), List.length_cons]
      omega

/-- The calls for a file stand after four calls for each file before it. -/
theorem calls_at {bodies : List String} {targets : List Path} {i : Nat} {body : String}
    {target : Path} (hbody : bodies[i]? = some body) (htarget : targets[i]? = some target)
    (terminator : String) :
    ((calls terminator ⟨bodies, targets⟩).drop (4 * i)).take 4 =
      callsFor terminator body target := by
  induction i generalizing bodies targets with
  | zero =>
    cases bodies with
    | nil => cases hbody
    | cons b bodies =>
      cases targets with
      | nil => cases htarget
      | cons t targets =>
        cases hbody
        cases htarget
        rw [calls_cons]
        rfl
  | succ i ih =>
    cases bodies with
    | nil => cases hbody
    | cons b bodies =>
      cases targets with
      | nil => cases htarget
      | cons t targets =>
        rw [calls_cons, show 4 * (i + 1) = (callsFor terminator b t).length + 4 * i by
          rw [length_callsFor]; omega, List.drop_length_add_append]
        exact ih hbody htarget

/-- Whatever an adapter does, a batch of two sizes is refused without a call, and otherwise the
calls are a beginning of the plan: for each file in order its removal, its directory, its creation
and its records. They are the whole plan where none fails, and the batch then returns its targets;
else the last one fails, and the batch ends with that failure. -/
theorem write_makes_calls_in_order {σ : Type} (adapter : Adapter σ) (terminator : String)
    (b : Batch) (s : σ) :
    ∃ result s' made,
      (b.write adapter.perform terminator).run s = (result, s') ∧
      (b.write adapter.logged.perform terminator).run (s, []) = (result, s', made) ∧
      (b.bodies.length ≠ b.targets.length →
        result = .error (.batchSizes b.bodies.length b.targets.length) ∧ s' = s ∧ made = []) ∧
      (b.bodies.length = b.targets.length →
        (b.calls terminator).length = 4 * b.targets.length ∧
        (∀ i body target, b.bodies[i]? = some body → b.targets[i]? = some target →
          ((b.calls terminator).drop (4 * i)).take 4 =
            [.remove target, .makeDirs target.parent, .create target,
              .writeRecords target (Records.split body) terminator]) ∧
        ((adapter.Succeeds s (b.calls terminator) s' ∧ made = b.calls terminator ∧
            result = .ok b.targets) ∨
          ∃ done c rest mid e, b.calls terminator = done ++ c :: rest ∧
            adapter.Succeeds s done mid ∧ adapter c mid = (.error e, s') ∧ made = done ++ [c] ∧
            result = .error e)) := by
  by_cases hlen : b.bodies.length = b.targets.length
  · have hplan : (b.calls terminator).length = 4 * b.targets.length := length_calls hlen terminator
    have hat : ∀ i body target, b.bodies[i]? = some body → b.targets[i]? = some target →
        ((b.calls terminator).drop (4 * i)).take 4 = callsFor terminator body target :=
      fun i body target hbody htarget => calls_at hbody htarget terminator
    rcases adapter.succeeds_or_fails (b.calls terminator) s with
      ⟨s', h⟩ | ⟨done, c, rest, mid, e, s', hcalls, hdone, hfail⟩
    · refine ⟨.ok b.targets, s', b.calls terminator, write_of_succeeds hlen h,
        write_of_succeeds hlen (h.logged []), fun hne => absurd hlen hne, fun _ =>
        ⟨hplan, hat, .inl ⟨h, rfl, rfl⟩⟩⟩
    · refine ⟨.error e, s', done ++ [c], write_of_fails hlen hcalls hdone hfail,
        write_of_fails hlen hcalls (hdone.logged []) (Adapter.logged_of_fails hfail done),
        fun hne => absurd hlen hne, fun _ =>
        ⟨hplan, hat, .inr ⟨done, c, rest, mid, e, hcalls, hdone, hfail, rfl, rfl⟩⟩⟩
  · exact ⟨_, s, [], write_of_length_ne hlen adapter terminator s,
      write_of_length_ne hlen adapter.logged terminator (s, []), fun _ => ⟨rfl, rfl, rfl⟩,
      fun h => absurd h hlen⟩

end TestSkeleton.Batch
