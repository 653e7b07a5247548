import TestSkeleton.Proofs.Run.Scene

/-!
# Progress of calls

How far calls get on the store of an adapter. Either all of them succeed, or there is a first one
that fails, and no call is made after it. Both ways fix what a batch comes to.
-/

namespace TestSkeleton

namespace Adapter

variable {σ : Type}

/-- An adapter as the handler of calls. -/
def perform (adapter : Adapter σ) (c : Call) : RunM σ Unit := adapter c

/-- Calls succeed one after the other and lead from one store to another. -/
inductive Succeeds (adapter : Adapter σ) : σ → List Call → σ → Prop
  | nil (s : σ) : Succeeds adapter s [] s
  | cons {s mid s' : σ} {c : Call} {calls : List Call} (head : adapter c s = (.ok (), mid))
      (tail : Succeeds adapter mid calls s') : Succeeds adapter s (c :: calls) s'

variable {adapter : Adapter σ} {s mid s' : σ} {c : Call} {done rest calls : List Call} {e : Failure}

/-- No calls succeed without a change. -/
theorem succeeds_nil_iff : adapter.Succeeds s [] s' ↔ s = s' := by
  constructor
  · rintro ⟨⟩
    rfl
  · rintro rfl
    exact .nil s

/-- Calls succeed when the first does and then the rest. -/
theorem succeeds_cons_iff :
    adapter.Succeeds s (c :: calls) s' ↔
      ∃ mid, adapter c s = (.ok (), mid) ∧ adapter.Succeeds mid calls s' := by
  constructor
  · rintro (_ | ⟨head, tail⟩)
    exact ⟨_, head, tail⟩
  · rintro ⟨mid, head, tail⟩
    exact .cons head tail

/-- Calls of two lists succeed where those of the first one lead to a store on which those of the
second one do. -/
theorem succeeds_append_iff :
    adapter.Succeeds s (done ++ rest) s' ↔
      ∃ mid, adapter.Succeeds s done mid ∧ adapter.Succeeds mid rest s' := by
  induction done generalizing s with
  | nil => simp [succeeds_nil_iff]
  | cons c done ih =>
    rw [List.cons_append, succeeds_cons_iff]
    constructor
    · rintro ⟨next, head, tail⟩
      obtain ⟨mid, hdone, hrest⟩ := ih.mp tail
      exact ⟨mid, .cons head hdone, hrest⟩
    · rintro ⟨mid, hdone, hrest⟩
      obtain ⟨next, head, tail⟩ := succeeds_cons_iff.mp hdone
      exact ⟨next, head, ih.mpr ⟨mid, tail, hrest⟩⟩

/-- All calls succeed, or one of them is the first to fail. -/
theorem succeeds_or_fails (adapter : Adapter σ) (calls : List Call) (s : σ) :
    (∃ s', adapter.Succeeds s calls s') ∨
      ∃ done c rest mid e s', calls = done ++ c :: rest ∧ adapter.Succeeds s done mid ∧
        adapter c mid = (.error e, s') := by
  induction calls generalizing s with
  | nil => exact .inl ⟨s, .nil s⟩
  | cons c calls ih =>
    rcases hc : adapter c s with ⟨e | ⟨⟩, next⟩
    · exact .inr ⟨[], c, calls, s, e, next, rfl, .nil s, hc⟩
    · rcases ih next with ⟨s', tail⟩ | ⟨done, c', rest, mid, e, s', rfl, hdone, hfail⟩
      · exact .inl ⟨s', .cons hc tail⟩
      · exact .inr ⟨c :: done, c', rest, mid, e, s', rfl, .cons hc hdone, hfail⟩

/-- Calls that succeed are all made. -/
theorem forM_of_succeeds (h : adapter.Succeeds s calls s') :
    (calls.forM adapter.perform).run s = (.ok (), s') := by
  rw [List.forM_eq_forM]
  induction h with
  | nil s => rfl
  | cons head tail ih =>
    rw [List.forM_cons, RunM.run_bind]
    have hhead : (adapter.perform _).run _ = _ := head
    rw [hhead]
    exact ih

/-- Calls end with the first one that fails. -/
theorem forM_of_fails (hdone : adapter.Succeeds s done mid) (hfail : adapter c mid = (.error e, s'))
    (rest : List Call) : ((done ++ c :: rest).forM adapter.perform).run s = (.error e, s') := by
  rw [List.forM_eq_forM]
  induction hdone with
  | nil s =>
    rw [List.nil_append, List.forM_cons, RunM.run_bind]
    have hhead : (adapter.perform c).run s = _ := hfail
    rw [hhead]
  | cons head tail ih =>
    rw [List.cons_append, List.forM_cons, RunM.run_bind]
    have hhead : (adapter.perform _).run _ = _ := head
    rw [hhead]
    exact ih hfail

/-! ### The calls that are made -/

/-- An adapter together with the calls that it has been asked for, one that fails included. -/
def logged (adapter : Adapter σ) : Adapter (σ × List Call) := fun c s =>
  ((adapter c s.1).1, (adapter c s.1).2, s.2 ++ [c])

/-- Calls that succeed are all written down. -/
theorem Succeeds.logged (h : adapter.Succeeds s calls s') (past : List Call) :
    adapter.logged.Succeeds (s, past) calls (s', past ++ calls) := by
  induction h generalizing past with
  | nil s =>
    rw [List.append_nil]
    exact .nil _
  | @cons s mid s' c calls head tail ih =>
    have hhead : adapter.logged c (s, past) = (.ok (), mid, past ++ [c]) := by
      rw [Adapter.logged, head]
    rw [List.append_cons]
    exact .cons hhead (ih _)

/-- A call that fails is written down too. -/
theorem logged_of_fails (h : adapter c mid = (.error e, s')) (past : List Call) :
    adapter.logged c (mid, past) = (.error e, s', past ++ [c]) := by
  rw [logged, h]

end Adapter

namespace Batch

variable {σ : Type} {b : Batch} {s s' : σ}

/-- A batch of two sizes is refused at once. -/
theorem write_of_length_ne (h : b.bodies.length ≠ b.targets.length) (adapter : Adapter σ)
    (terminator : String) (s : σ) :
    (b.write adapter.perform terminator).run s =
      (.error (.batchSizes b.bodies.length b.targets.length), s) := by
  rw [write, check, if_neg h]
  rfl

private theorem write_eq (h : b.bodies.length = b.targets.length) (adapter : Adapter σ)
    (terminator : String) :
    b.write adapter.perform terminator =
      ((b.calls terminator).forM adapter.perform >>= fun _ => pure b.targets) := by
  rw [write, check, if_pos h]
  rfl

/-- A batch whose calls succeed returns its targets. -/
theorem write_of_succeeds {adapter : Adapter σ} {terminator : String}
    (hlen : b.bodies.length = b.targets.length)
    (h : adapter.Succeeds s (b.calls terminator) s') :
    (b.write adapter.perform terminator).run s = (.ok b.targets, s') := by
  rw [write_eq hlen, RunM.run_bind, Adapter.forM_of_succeeds h]
  rfl

/-- A batch fails as the first of its calls that fails. -/
theorem write_of_fails {adapter : Adapter σ} {terminator : String} {done rest : List Call} {c : Call}
    {mid : σ} {e : Failure} (hlen : b.bodies.length = b.targets.length)
    (hcalls : b.calls terminator = done ++ c :: rest) (hdone : adapter.Succeeds s done mid)
    (hfail : adapter c mid = (.error e, s')) :
    (b.write adapter.perform terminator).run s = (.error e, s') := by
  rw [write_eq hlen, RunM.run_bind, hcalls, Adapter.forM_of_fails hdone hfail]

/-- A batch returns its targets exactly where its sizes agree and all of its calls succeed. -/
theorem write_eq_ok {adapter : Adapter σ} {terminator : String} {written : List Path} :
    (b.write adapter.perform terminator).run s = (.ok written, s') ↔
      b.bodies.length = b.targets.length ∧ adapter.Succeeds s (b.calls terminator) s' ∧
        written = b.targets := by
  constructor
  · intro h
    by_cases hlen : b.bodies.length = b.targets.length
    · rcases adapter.succeeds_or_fails (b.calls terminator) s with
        ⟨s'', hall⟩ | ⟨done, c, rest, mid, e, s'', hcalls, hdone, hfail⟩
      · rw [write_of_succeeds hlen hall] at h
        cases h
        exact ⟨hlen, hall, rfl⟩
      · rw [write_of_fails hlen hcalls hdone hfail] at h
        cases h
    · rw [write_of_length_ne hlen] at h
      cases h
  · rintro ⟨hlen, hall, rfl⟩
    exact write_of_succeeds hlen hall

end Batch
end TestSkeleton
