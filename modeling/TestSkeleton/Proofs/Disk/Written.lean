import TestSkeleton.Proofs.Disk.Effects
import TestSkeleton.Proofs.Write.Progress

/-!
# Files written to a disk

The calls for one file touch the place of its target and make directories on the way there, whether
they succeed or not. From this follow the frame of a whole list of files, and what is read at a
target when no later file goes to the same place.
-/

namespace TestSkeleton

/-- The calls for a list of files. -/
def Batch.callsOf (terminator : String) (files : List (String × Path)) : List Call :=
  files.flatMap fun f => callsFor terminator f.1 f.2

/-- The plan of a batch is that of its bodies paired with its targets. -/
theorem Batch.calls_eq_callsOf (terminator : String) (b : Batch) :
    b.calls terminator = callsOf terminator (b.bodies.zip b.targets) := rfl

/-- The plan starts with the calls of the first file. -/
theorem Batch.callsOf_cons (terminator : String) (f : String × Path) (files : List (String × Path)) :
    callsOf terminator (f :: files) = callsFor terminator f.1 f.2 ++ callsOf terminator files :=
  List.flatMap_cons

/-- The plan of files after files comes after theirs. -/
theorem Batch.callsOf_append (terminator : String) (files files' : List (String × Path)) :
    callsOf terminator (files ++ files') = callsOf terminator files ++ callsOf terminator files' :=
  List.flatMap_append

namespace Adapter

variable {σ : Type}

/-- Some call for a file is the first to fail, with the store before the file and afterwards. -/
def FailsAt (adapter : Adapter σ) (terminator : String) (f : String × Path) (s : σ) (e : Failure)
    (s' : σ) : Prop :=
  ∃ made c left mid, Batch.callsFor terminator f.1 f.2 = made ++ c :: left ∧
    adapter.Succeeds s made mid ∧ adapter c mid = (.error e, s')

/-- All files are written, or there is a first one that fails. -/
theorem succeeds_or_failsAt (adapter : Adapter σ) (terminator : String)
    (files : List (String × Path)) (s : σ) :
    (∃ s', adapter.Succeeds s (Batch.callsOf terminator files) s') ∨
      ∃ done f rest mid e s', files = done ++ f :: rest ∧
        adapter.Succeeds s (Batch.callsOf terminator done) mid ∧
        adapter.FailsAt terminator f mid e s' := by
  induction files generalizing s with
  | nil => exact .inl ⟨s, .nil s⟩
  | cons f files ih =>
    rcases adapter.succeeds_or_fails (Batch.callsFor terminator f.1 f.2) s with
      ⟨next, hfile⟩ | ⟨made, c, left, mid, e, s', hcalls, hmade, hfail⟩
    · rcases ih next with ⟨s', htail⟩ | ⟨done, f', rest, mid, e, s', rfl, hdone, hfail⟩
      · refine .inl ⟨s', ?_⟩
        rw [Batch.callsOf_cons]
        exact succeeds_append_iff.mpr ⟨next, hfile, htail⟩
      · refine .inr ⟨f :: done, f', rest, mid, e, s', rfl, ?_, hfail⟩
        rw [Batch.callsOf_cons]
        exact succeeds_append_iff.mpr ⟨next, hfile, hdone⟩
    · exact .inr ⟨[], f, files, s, e, s', rfl, .nil s, made, c, left, mid, hcalls, hmade, hfail⟩

/-- A batch ends with the failure of its first file that fails. -/
theorem FailsAt.write {adapter : Adapter σ} {terminator : String} {b : Batch} {s mid s' : σ}
    {done rest : List (String × Path)} {f : String × Path} {e : Failure}
    (hfail : adapter.FailsAt terminator f mid e s') (hlen : b.bodies.length = b.targets.length)
    (hfiles : b.bodies.zip b.targets = done ++ f :: rest)
    (hdone : adapter.Succeeds s (Batch.callsOf terminator done) mid) :
    (b.write adapter.perform terminator).run s = (.error e, s') := by
  obtain ⟨made, c, left, next, hcalls, hmade, hc⟩ := hfail
  have hall : b.calls terminator = (Batch.callsOf terminator done ++ made) ++
      c :: (left ++ Batch.callsOf terminator rest) := by
    rw [Batch.calls_eq_callsOf, hfiles, Batch.callsOf_append, Batch.callsOf_cons, hcalls]
    simp only [List.append_assoc, List.cons_append]
  exact Batch.write_of_fails hlen hall (succeeds_append_iff.mpr ⟨mid, hdone, hmade⟩) hc

end Adapter

namespace Disk

/-- The disk as the adapter of a run. -/
def adapter : Adapter Disk := fun c d => d.after c

variable {d d' : Disk} {files dirs : Place → Prop} {terminator body : String} {target : Path}
  {e : Failure}

/-- The content of a file with a body. -/
def contentOf (terminator body : String) : ByteArray :=
  (Records.join terminator (Records.split body)).toUTF8

/-- The places of targets. -/
def IsTarget (targets : List Path) (q : Place) : Prop := ∃ t ∈ targets, q = t.place

/-- The places on the way to targets. -/
def IsOnWay (targets : List Path) (q : Place) : Prop :=
  ∃ t ∈ targets, q ≠ [] ∧ Passes t.parent.segments q

/-! ### Frames of calls -/

private theorem frame_step {x : Except Failure Disk}
    (h : ∀ d', x = .ok d' → Frame d d' files dirs) : Frame d (d.step x).2 files dirs := by
  cases x with
  | error e => exact .refl d _ _
  | ok d' => exact h d' rfl

/-- A call for a file touches its target and makes directories on the way there, also where it
fails. -/
theorem frame_after {c : Call} (hc : c ∈ Batch.callsFor terminator body target) (d : Disk) :
    Frame d (d.after c).2 (IsTarget [target]) (IsOnWay [target]) := by
  have htarget : ∀ q, q = target.place → IsTarget [target] q := fun q hq =>
    ⟨target, List.mem_singleton_self target, hq⟩
  have hfile : ∀ {x : Except Failure Disk},
      (∀ d', x = .ok d' → Frame d d' (· = target.place) fun _ => False) →
      Frame d (d.step x).2 (IsTarget [target]) (IsOnWay [target]) := fun h =>
    (frame_step h).mono htarget fun _ => False.elim
  simp only [Batch.callsFor, List.mem_cons, List.not_mem_nil, or_false] at hc
  rcases hc with rfl | rfl | rfl | rfl
  · exact hfile fun _ h => frame_remove h
  · refine (d.frame_makeDirs target.parent).of_ne_root.mono (fun _ => False.elim) ?_
    exact fun q hq => ⟨target, List.mem_singleton_self target, hq⟩
  · exact hfile fun _ h => frame_create h
  · exact hfile fun _ h => frame_write h

/-- Calls that stay within a frame one by one do so together. -/
theorem frame_of_succeeds {calls : List Call} (h : adapter.Succeeds d calls d')
    (hcalls : ∀ c ∈ calls, ∀ d : Disk, Frame d (d.after c).2 files dirs) :
    Frame d d' files dirs := by
  induction h with
  | nil s => exact .refl s _ _
  | @cons s mid s' c calls head tail ih =>
    have hhead := hcalls c List.mem_cons_self s
    rw [show s.after c = (.ok (), mid) from head] at hhead
    exact hhead.trans (ih fun c hc => hcalls c (List.mem_cons_of_mem _ hc))

private theorem Frame.of_target {targets : List Path} (htarget : target ∈ targets)
    (h : Frame d d' (IsTarget [target]) (IsOnWay [target])) :
    Frame d d' (IsTarget targets) (IsOnWay targets) := by
  refine h.mono ?_ ?_
  · rintro q ⟨t, ht, rfl⟩
    rw [List.mem_singleton.mp ht]
    exact ⟨target, htarget, rfl⟩
  · rintro q ⟨t, ht, hq⟩
    rw [List.mem_singleton.mp ht] at hq
    exact ⟨target, htarget, hq⟩

/-- Written files touch their targets and what is on the way there. -/
theorem frame_callsOf {list : List (String × Path)}
    (h : adapter.Succeeds d (Batch.callsOf terminator list) d') :
    Frame d d' (IsTarget (list.map Prod.snd)) (IsOnWay (list.map Prod.snd)) := by
  refine frame_of_succeeds h fun c hc d => ?_
  obtain ⟨f, hf, hcf⟩ := List.mem_flatMap.mp hc
  exact (frame_after hcf d).of_target (List.mem_map_of_mem hf)

/-- A file that fails touches its target and what is on the way there. -/
theorem frame_failsAt {f : String × Path} (h : adapter.FailsAt terminator f d e d') :
    Frame d d' (IsTarget [f.2]) (IsOnWay [f.2]) := by
  obtain ⟨made, c, left, mid, hcalls, hmade, hfail⟩ := h
  have hmem : ∀ c' ∈ made ++ [c], c' ∈ Batch.callsFor terminator f.1 f.2 := by
    intro c' hc'
    rw [hcalls, List.append_cons]
    exact List.mem_append_left _ hc'
  have hlast := frame_after (hmem c (by simp)) mid
  rw [show mid.after c = (.error e, d') from hfail] at hlast
  refine (frame_of_succeeds hmade fun c' hc' => ?_).trans hlast
  exact frame_after (hmem c' (List.mem_append_left _ hc'))

/-- Files that are written, and then one that fails, touch their targets and what is on the way
there. -/
theorem frame_failsAt_after {mid : Disk} {done : List (String × Path)} {f : String × Path}
    (hdone : adapter.Succeeds d (Batch.callsOf terminator done) mid)
    (hfail : adapter.FailsAt terminator f mid e d') :
    Frame d d' (IsTarget (done.map Prod.snd ++ [f.2])) (IsOnWay (done.map Prod.snd ++ [f.2])) := by
  have hlast := (frame_failsAt hfail).of_target
    (List.mem_append_right (done.map Prod.snd) (List.mem_singleton_self f.2))
  refine ((frame_callsOf hdone).mono ?_ ?_).trans hlast
  · rintro q ⟨t, ht, hq⟩
    exact ⟨t, List.mem_append_left _ ht, hq⟩
  · rintro q ⟨t, ht, hq⟩
    exact ⟨t, List.mem_append_left _ ht, hq⟩

/-! ### What is read afterwards -/

/-- A written file is read with its body. -/
theorem read_callsFor (h : adapter.Succeeds d (Batch.callsFor terminator body target) d') :
    d'.read target = .ok (contentOf terminator body) := by
  -- the last of the four calls writes the records
  obtain ⟨d₁, -, h⟩ := Adapter.succeeds_cons_iff.mp h
  obtain ⟨d₂, -, h⟩ := Adapter.succeeds_cons_iff.mp h
  obtain ⟨d₃, -, h⟩ := Adapter.succeeds_cons_iff.mp h
  obtain ⟨d₄, hwrite, h⟩ := Adapter.succeeds_cons_iff.mp h
  obtain rfl := Adapter.succeeds_nil_iff.mp h
  exact read_of_write (step_eq_ok.mp hwrite)

/-- A disk holds the last body of a file: no later file of the list goes to its place. -/
def HoldsLast (d : Disk) (terminator : String) (list : List (String × Path)) (target : Path) :
    Prop :=
  ∃ before body after, list = before ++ (body, target) :: after ∧
    target.place ∉ after.map (fun f => f.2.place) ∧
    d.read target = .ok (contentOf terminator body)

/-- Of the files that go to one place the last one is read there. -/
theorem holdsLast_of_succeeds {list : List (String × Path)} {q : Place}
    (h : adapter.Succeeds d (Batch.callsOf terminator list) d')
    (hq : q ∈ list.map fun f => f.2.place) :
    ∃ t, t.place = q ∧ d'.HoldsLast terminator list t := by
  induction list generalizing d with
  | nil => cases hq
  | cons f list ih =>
    rw [Batch.callsOf_cons] at h
    obtain ⟨mid, hfile, hlist⟩ := Adapter.succeeds_append_iff.mp h
    by_cases hlater : q ∈ list.map fun f => f.2.place
    · obtain ⟨t, ht, before, body, after, rfl, hlast, hread⟩ := ih hlist hlater
      exact ⟨t, ht, f :: before, body, after, rfl, hlast, hread⟩
    · have hplace : f.2.place = q := ((List.mem_cons.mp hq).resolve_right hlater).symm
      refine ⟨f.2, hplace, [], f.1, list, rfl, hplace ▸ hlater, ?_⟩
      -- no later file touches the place, so the records are still there
      refine (frame_callsOf hlist).read_stays ?_ (read_callsFor hfile)
      rintro ⟨t, ht, htq⟩
      obtain ⟨g, hg, rfl⟩ := List.mem_map.mp ht
      exact hlater (List.mem_map.mpr ⟨g, hg, by rw [← htq, hplace]⟩)

/-- Every target of written files is read with the last body that goes to its place. -/
theorem read_target_of_succeeds {list : List (String × Path)} {t : Path}
    (h : adapter.Succeeds d (Batch.callsOf terminator list) d')
    (ht : t ∈ list.map Prod.snd) :
    ∃ t', t'.place = t.place ∧ d'.HoldsLast terminator list t' ∧ d'.read t = d'.read t' := by
  obtain ⟨f, hf, rfl⟩ := List.mem_map.mp ht
  obtain ⟨t', hplace, hholds⟩ := holdsLast_of_succeeds h (List.mem_map_of_mem hf)
  refine ⟨t', hplace, hholds, ?_⟩
  obtain ⟨_, body, _, -, -, hread⟩ := hholds
  have hlook := (read_eq_ok.mp hread).2.2
  rw [hread]
  -- the target could be read when it was written, and all directories are still there
  obtain ⟨before, after, rfl⟩ := List.append_of_mem hf
  rw [Batch.callsOf_append, Batch.callsOf_cons] at h
  obtain ⟨mid, -, h⟩ := Adapter.succeeds_append_iff.mp h
  obtain ⟨written, hfile, hafter⟩ := Adapter.succeeds_append_iff.mp h
  obtain ⟨hnull, hloc, -⟩ := read_eq_ok.mp (read_callsFor hfile)
  obtain ⟨-, hlong, hfollow⟩ := locate_eq_ok.mp hloc
  rw [hplace] at hlook
  refine read_eq_ok.mpr ⟨hnull, locate_eq_ok.mpr ⟨rfl, hlong, ?_⟩, hlook⟩
  exact follow_of_directories (frame_callsOf hafter).directory_stays hfollow (by rw [hlook]; rfl)

/-- What a disk holds of files stays where a later file fails elsewhere. -/
theorem HoldsLast.of_failsAt {list : List (String × Path)} {f : String × Path} {t : Path}
    (h : d.HoldsLast terminator list t) (hfail : adapter.FailsAt terminator f d e d')
    (hne : t.place ≠ f.2.place) : d'.HoldsLast terminator list t := by
  obtain ⟨before, body, after, rfl, hlast, hread⟩ := h
  refine ⟨before, body, after, rfl, hlast, (frame_failsAt hfail).read_stays ?_ hread⟩
  rintro ⟨t', ht', htq⟩
  rw [List.mem_singleton.mp ht'] at htq
  exact hne htq

end Disk
end TestSkeleton
