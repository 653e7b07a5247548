import TestSkeleton.Disk.Files
import TestSkeleton.Proofs.Disk.TargetsOnly
import TestSkeleton.Proofs.Write.LastBody

/-!
# What a ledger says about a disk

A batch on a disk and the same batch on a ledger, file by file. A ledger never fails, so it knows
nothing about the failures of a disk; but what it holds for the files that have been written is what
the disk holds. The step is one file, and the main statement is about a batch that succeeds on a
disk with anything on it.
-/

namespace TestSkeleton

namespace Ledger

/-- A ledger as the adapter of a run. -/
def adapter : Adapter Ledger := fun c l => (.ok (), l.record c)

/-- On a ledger all calls succeed. -/
theorem succeeds_recordAll (l : Ledger) (calls : List Call) :
    adapter.Succeeds l calls (l.recordAll calls) := by
  induction calls generalizing l with
  | nil => exact .nil l
  | cons c calls ih => exact .cons rfl (ih (l.record c))

end Ledger

namespace Disk

variable {d d' : Disk} {l : Ledger} {terminator body : String} {target : Path} {paths : List Path}
  {list : List (String × Path)}

/-- A disk agrees with a ledger on some paths: each of them has a text in the ledger, and its bytes
are read there on the disk. -/
def AgreesWith (d : Disk) (l : Ledger) (paths : List Path) : Prop :=
  ∀ p ∈ paths, ∃ text, l.text? p = some text ∧ d.read p = .ok text.toUTF8

/-- A file that is written on both sides is one more path on which they agree. -/
theorem AgreesWith.callsFor (h : d.AgreesWith l paths)
    (hfile : adapter.Succeeds d (Batch.callsFor terminator body target) d')
    (hplain : ∀ p ∈ target :: paths, p.IsPlain) :
    d'.AgreesWith (l.recordAll (Batch.callsFor terminator body target)) (target :: paths) := by
  intro p hp
  by_cases htarget : p = target
  · subst htarget
    exact ⟨_, l.text?_callsFor_self terminator body p, read_callsFor hfile⟩
  · -- another path has another place, which the calls for the file do not touch
    obtain ⟨text, htext, hread⟩ := h p ((List.mem_cons.mp hp).resolve_left htarget)
    refine ⟨text, (Ledger.text?_callsFor_of_ne htarget l terminator body).trans htext, ?_⟩
    refine (frame_of_succeeds hfile fun c hc d => frame_after hc d).read_stays ?_ hread
    rintro ⟨t, ht, hplace⟩
    rw [List.mem_singleton.mp ht] at hplace
    exact htarget ((hplain p hp).eq_of_place_eq (hplain target List.mem_cons_self) hplace)

/-- Files that are written on both sides are paths on which they agree. -/
theorem AgreesWith.callsOf (h : d.AgreesWith l paths)
    (hfiles : adapter.Succeeds d (Batch.callsOf terminator list) d')
    (hplain : ∀ p ∈ list.map Prod.snd ++ paths, p.IsPlain) :
    d'.AgreesWith (l.recordAll (Batch.callsOf terminator list)) (list.map Prod.snd ++ paths) := by
  induction list generalizing d l paths with
  | nil =>
    obtain rfl := Adapter.succeeds_nil_iff.mp hfiles
    exact h
  | cons f list ih =>
    rw [Batch.callsOf_cons] at hfiles ⊢
    obtain ⟨mid, hfile, hrest⟩ := Adapter.succeeds_append_iff.mp hfiles
    have hperm : ∀ p, p ∈ list.map Prod.snd ++ f.2 :: paths ↔
        p ∈ (f :: list).map Prod.snd ++ paths := by simp [or_left_comm]
    have hstep := h.callsFor hfile fun p hp =>
      hplain p ((hperm p).mp (List.mem_append_right _ hp))
    have hall := ih hstep hrest fun p hp => hplain p ((hperm p).mp hp)
    rw [Ledger.recordAll_append]
    exact fun p hp => hall p ((hperm p).mpr hp)

/-- A batch that is written to a disk returns on any ledger what it returns on the disk, and for
every target the disk holds the bytes of the text that the ledger holds. -/
theorem write_agrees_with_ledger {b : Batch} {written : List Path} (l : Ledger)
    (hplain : ∀ t ∈ b.targets, t.IsPlain)
    (h : (b.write perform terminator).run d = (.ok written, d')) :
    ∃ l', (b.write Ledger.perform terminator).run l = (.ok written, l') ∧
      ∀ t ∈ b.targets, ∃ text, l'.text? t = some text ∧ d'.read t = .ok text.toUTF8 := by
  have hwrite : (b.write adapter.perform terminator).run d = (.ok written, d') := h
  obtain ⟨hlen, hcalls, rfl⟩ := Batch.write_eq_ok.mp hwrite
  refine ⟨l.recordAll (b.calls terminator),
    Batch.write_of_succeeds hlen (Ledger.succeeds_recordAll l _), ?_⟩
  have hsnd : (b.bodies.zip b.targets).map Prod.snd = b.targets :=
    List.map_snd_zip (Nat.le_of_eq hlen.symm)
  have hagree : d.AgreesWith l [] := nofun
  rw [Batch.calls_eq_callsOf] at hcalls ⊢
  have hall := hagree.callsOf hcalls (by rwa [hsnd, List.append_nil])
  rwa [hsnd, List.append_nil] at hall

/-- Two bodies for one target, a target in a directory that is still missing, and an old file that
is replaced. -/
theorem write_agrees_with_ledger_of_three :
    let first : Path := .ofString "/p/a"
    let second : Path := .ofString "/p/b/c"
    let b : Batch := ⟨["x\n\n", "é", "y\nz"], [first, second, first]⟩
    let d := empty.put first "old".toUTF8
    ∃ d' l', (b.write perform "\r\n").run d = (.ok [first, second, first], d') ∧
      (b.write Ledger.perform "\r\n").run {} = (.ok [first, second, first], l') ∧
      l'.text? first = some "y\r\nz\r\n" ∧ d'.read first = .ok "y\r\nz\r\n".toUTF8 ∧
      l'.text? second = some "é\r\n" ∧ d'.read second = .ok "é\r\n".toUTF8 := by
  intro first second b d
  have hresult : ((b.write perform "\r\n").run d).1 = .ok [first, second, first] := by
    decide +kernel
  have hledger : ∀ t ∈ [first, second], ((b.write Ledger.perform "\r\n").run {}).2.text? t =
      some (if t = first then "y\r\nz\r\n" else "é\r\n") := by decide +kernel
  obtain ⟨l', hrun, hagree⟩ := write_agrees_with_ledger (b := b) {} (by decide)
    (Prod.ext hresult rfl : (b.write perform "\r\n").run d = (_, _))
  rw [hrun] at hledger
  obtain ⟨text, htext, hread⟩ := hagree first (by simp [b])
  obtain ⟨text', htext', hread'⟩ := hagree second (by simp [b])
  obtain rfl := Option.some.inj (htext.symm.trans (hledger first (by simp)))
  obtain rfl := Option.some.inj (htext'.symm.trans (hledger second (by simp)))
  exact ⟨_, l', Prod.ext hresult rfl, hrun, htext, hread, htext', hread'⟩

end Disk
end TestSkeleton
