import TestSkeleton.Proofs.Run.Script

/-!
# Scenes of runs

A run among any adapter and any listener, with everything that it does written down. The adapter
changes a store, which the listener can only look at; both may fail at every act. The statements say
what the acts of a run leave behind: a prefix of them in the past of the scene, and a store that
messages do not change.
-/

namespace TestSkeleton

/-- Carries out calls on a store. A call that fails may have changed the store. -/
abbrev Adapter (σ : Type) := Call → σ → Except Failure Unit × σ

/-- Hears messages, with the store in view and a memory of its own. -/
abbrev Listener (σ τ : Type) := Message → σ → τ → Except Failure Unit × τ

/-- A listener that never fails. -/
def Listener.Quiet {σ τ : Type} (listener : Listener σ τ) : Prop :=
  ∀ msg store memory, (listener msg store memory).1 = .ok ()

/-- What a run acts on, and its acts so far, the one that failed included. -/
structure Scene (σ τ : Type) where
  store : σ
  memory : τ
  past : List Act := []

namespace Scene

variable {σ τ : Type}

/-- The scene of an adapter and a listener. -/
def handlers (adapter : Adapter σ) (listener : Listener σ τ) : Handlers (RunM (Scene σ τ)) where
  perform c s :=
    let (result, store) := adapter c s.store
    (result, { s with store, past := s.past ++ [.make c] })
  announce msg s :=
    let (result, memory) := listener msg s.store s.memory
    (result, { s with memory, past := s.past ++ [.tell msg] })

variable {adapter : Adapter σ} {listener : Listener σ τ}

/-- A call acts on the store, and is noted. -/
theorem act_make (c : Call) (s : Scene σ τ) :
    (((handlers adapter listener).act (.make c)).run s : Except Failure Unit × Scene σ τ) =
      ((adapter c s.store).1,
        { s with store := (adapter c s.store).2, past := s.past ++ [.make c] }) := rfl

/-- A message acts on the memory of its listener, and is noted. -/
theorem act_tell (msg : Message) (s : Scene σ τ) :
    (((handlers adapter listener).act (.tell msg)).run s : Except Failure Unit × Scene σ τ) =
      ((listener msg s.store s.memory).1,
        { s with memory := (listener msg s.store s.memory).2, past := s.past ++ [.tell msg] }) :=
  rfl

/-- Every act is written down, also one that fails. -/
theorem past_act (adapter : Adapter σ) (listener : Listener σ τ) (a : Act) (s : Scene σ τ) :
    (((handlers adapter listener).act a).run s : Except Failure Unit × Scene σ τ).2.past =
      s.past ++ [a] := by
  cases a with
  | tell msg => rfl
  | make c => rfl

/-- The acts of a scene are the asked ones up to a failure. -/
theorem past_carry (adapter : Adapter σ) (listener : Listener σ τ) (acts : List Act)
    (s : Scene σ τ) :
    ∃ done, done <+: acts ∧
      ((handlers adapter listener).carry acts s).2.past = s.past ++ done := by
  induction acts generalizing s with
  | nil => exact ⟨[], List.prefix_refl [], by rw [Handlers.carry, List.append_nil]⟩
  | cons a acts ih =>
    have hpast := past_act adapter listener a s
    rw [Handlers.carry]
    split
    · next s' heq =>
      rw [heq] at hpast
      obtain ⟨done, hdone, h⟩ := ih s'
      exact ⟨a :: done, List.cons_prefix_cons.mpr ⟨rfl, hdone⟩, by
        rw [h, hpast, List.append_assoc, List.singleton_append]⟩
    · next e s' heq =>
      rw [heq] at hpast
      exact ⟨[a], List.cons_prefix_cons.mpr ⟨rfl, List.nil_prefix⟩, hpast⟩

/-- Messages leave the store as it is. -/
theorem store_carry_tell (adapter : Adapter σ) (listener : Listener σ τ) (msgs : List Message)
    (s : Scene σ τ) :
    ((handlers adapter listener).carry (msgs.map .tell) s).2.store = s.store := by
  induction msgs generalizing s with
  | nil => rfl
  | cons msg msgs ih =>
    rw [List.map_cons, Handlers.carry, act_tell]
    split
    · next s' heq =>
      obtain ⟨-, rfl⟩ := Prod.mk.inj heq
      exact ih _
    · next e s' heq =>
      obtain ⟨-, rfl⟩ := Prod.mk.inj heq
      rfl

/-- Calls leave the memory as it is. -/
theorem memory_carry_make (adapter : Adapter σ) (listener : Listener σ τ) (calls : List Call)
    (s : Scene σ τ) :
    ((handlers adapter listener).carry (calls.map .make) s).2.memory = s.memory := by
  induction calls generalizing s with
  | nil => rfl
  | cons c calls ih =>
    rw [List.map_cons, Handlers.carry, act_make]
    split
    · next s' heq =>
      obtain ⟨-, rfl⟩ := Prod.mk.inj heq
      exact ih _
    · next e s' heq =>
      obtain ⟨-, rfl⟩ := Prod.mk.inj heq
      rfl

/-- A quiet listener hears all messages. -/
theorem carry_tell_of_quiet (adapter : Adapter σ) {listener : Listener σ τ} (h : listener.Quiet)
    (msgs : List Message) (s : Scene σ τ) :
    ((handlers adapter listener).carry (msgs.map .tell) s).1 = .ok () := by
  induction msgs generalizing s with
  | nil => rfl
  | cons msg msgs ih =>
    rw [List.map_cons, Handlers.carry, act_tell, h]
    exact ih _

end Scene
end TestSkeleton
