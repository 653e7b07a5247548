import TestSkeleton.Run.Generation

/-!
# Scripts of runs

A run answers to nothing that its adapter or its listener does, except that it ends where one of
them fails. It is thus one list of acts and one outcome, fixed before anything is carried out.
A script is that list with that outcome; it is found by letting the run write down its acts.
The main statement says that a run under any handlers plays its script.
-/

namespace TestSkeleton

open Java

/-- What a run does to its surroundings. -/
inductive Act where
  | tell (msg : Message)
  | make (c : Call)

namespace Act

/-- The call that an act is, if it is one. -/
def call? : Act → Option Call
  | tell _ => none
  | make c => some c

/-- Messages are no calls. -/
@[simp] theorem filterMap_call?_tell (msgs : List Message) :
    (msgs.map tell).filterMap call? = [] := by
  simp [List.filterMap_map, Function.comp_def, call?]

/-- Of calls, all are calls. -/
@[simp] theorem filterMap_call?_make (calls : List Call) :
    (calls.map make).filterMap call? = calls := by
  simp [List.filterMap_map, Function.comp_def, call?]

end Act

/-- The acts of a computation, in order, and what it comes to after them. -/
structure Script (α : Type) where
  acts : List Act
  outcome : Except Failure α

/-- Computations on a state that may fail. -/
abbrev RunM (σ : Type) := ExceptT Failure (StateM σ)

namespace Script

variable {α β γ : Type}

/-- A script that starts with more acts. -/
def after (acts : List Act) (x : Script α) : Script α := ⟨acts ++ x.acts, x.outcome⟩

/-- A script that goes on with another one, unless it has failed. -/
def andThen (x : Script α) (f : α → Script β) : Script β :=
  match x.outcome with
  | .ok a => (f a).after x.acts
  | .error e => ⟨x.acts, .error e⟩

instance : Monad Script where
  pure a := ⟨[], .ok a⟩
  bind := andThen

instance : MonadExcept Failure Script where
  throw e := ⟨[], .error e⟩
  tryCatch x handle :=
    match x.outcome with
    | .ok _ => x
    | .error e => (handle e).after x.acts

/-- Handlers that write down what they are asked for. -/
def handlers : Handlers Script where
  perform c := ⟨[.make c], .ok ()⟩
  announce msg := ⟨[.tell msg], .ok ()⟩

/-- Acts go in front of the acts of a script. -/
theorem after_mk (acts acts' : List Act) (outcome : Except Failure α) :
    after acts ⟨acts', outcome⟩ = ⟨acts ++ acts', outcome⟩ := rfl

/-- No acts in front leave a script as it is. -/
theorem after_nil (x : Script α) : x.after [] = x := rfl

/-- A successful script is followed by the next one. -/
theorem ok_bind (acts : List Act) (a : α) (f : α → Script β) :
    (⟨acts, .ok a⟩ : Script α) >>= f = (f a).after acts := rfl

/-- Nothing follows a failed script. -/
theorem error_bind (acts : List Act) (e : Failure) (f : α → Script β) :
    (⟨acts, .error e⟩ : Script α) >>= f = ⟨acts, .error e⟩ := rfl

/-- A result is a script without acts. -/
theorem pure_eq (a : α) : (pure a : Script α) = ⟨[], .ok a⟩ := rfl

/-- A call is written down as one act. -/
theorem perform_eq (c : Call) : handlers.perform c = ⟨[.make c], .ok ()⟩ := rfl

/-- A message is written down as one act. -/
theorem announce_eq (msg : Message) : handlers.announce msg = ⟨[.tell msg], .ok ()⟩ := rfl

/-- A computation without acts. -/
theorem orThrow_eq (x : Except Failure α) : (Failure.orThrow x : Script α) = ⟨[], x⟩ := by
  cases x <;> rfl

private theorem id_map_script (x : Script α) : id <$> x = x := by
  obtain ⟨acts, outcome⟩ := x
  cases outcome with
  | ok a => simp [Functor.map, andThen, after]
  | error e => rfl

private theorem pure_bind_script (a : α) (f : α → Script β) : pure a >>= f = f a := by
  rw [pure_eq, ok_bind, after_nil]

private theorem bind_assoc_script (x : Script α) (f : α → Script β) (g : β → Script γ) :
    x >>= f >>= g = x >>= fun a => f a >>= g := by
  obtain ⟨acts, outcome⟩ := x
  cases outcome with
  | error e => rfl
  | ok a =>
    rw [ok_bind, ok_bind]
    cases h : (f a).outcome with
    | error e => simp [bind, andThen, after, h]
    | ok b => simp [bind, andThen, after, h]

instance : LawfulMonad Script :=
  LawfulMonad.mk' Script id_map_script pure_bind_script bind_assoc_script

end Script

namespace RunM

/-- A sequence goes on from the state after its first step, unless that step fails. -/
theorem run_bind {σ α β : Type} (x : RunM σ α) (f : α → RunM σ β) (s : σ) :
    (x >>= f).run s =
      match x.run s with
      | (.ok a, s) => (f a).run s
      | (.error e, s) => (.error e, s) := by
  rw [ExceptT.run_bind]
  simp only [bind, StateT.bind]
  rcases (x.run s : Except Failure α × σ) with ⟨e | a, s'⟩
  · rfl
  · rfl

end RunM

namespace Handlers

/-- What handlers do for an act. -/
def act {m : Type → Type} (h : Handlers m) : Act → m Unit
  | .tell msg => h.announce msg
  | .make c => h.perform c

variable {σ : Type} (h : Handlers (RunM σ))

/-- Carries out acts in order, up to the first one that fails. -/
def carry : List Act → σ → Except Failure Unit × σ
  | [], s => (.ok (), s)
  | a :: acts, s =>
    match (h.act a).run s with
    | (.ok (), s) => carry acts s
    | (.error e, s) => (.error e, s)

/-- Acts of two lists are carried out one list after the other. -/
theorem carry_append (acts acts' : List Act) (s : σ) :
    h.carry (acts ++ acts') s =
      match h.carry acts s with
      | (.ok (), s) => h.carry acts' s
      | (.error e, s) => (.error e, s) := by
  induction acts generalizing s with
  | nil => rfl
  | cons a acts ih =>
    rw [List.cons_append, carry, carry]
    rcases (h.act a).run s with ⟨e | ⟨⟩, next⟩
    · rfl
    · exact ih next

/-- Acts that are done one by one are carried out. -/
theorem forM_act_run (acts : List Act) (s : σ) : (acts.forM h.act).run s = h.carry acts s := by
  rw [List.forM_eq_forM]
  induction acts generalizing s with
  | nil => rfl
  | cons a acts ih =>
    rw [List.forM_cons, RunM.run_bind, carry]
    split
    · next heq => rw [heq]; exact ih _
    · next heq => rw [heq]

end Handlers

namespace Script

/-! ### Playing a script -/

variable {α β σ : Type} (h : Handlers (RunM σ))

/-- Carries out the acts of a script and ends as it does, if no act fails. -/
def play (s : Script α) : RunM σ α := do
  s.acts.forM h.act
  Failure.orThrow s.outcome

/-- A result is played as it is. -/
theorem play_pure (a : α) : (pure a : Script α).play h = pure a := rfl

/-- A failure is played as it is. -/
theorem play_orThrow (x : Except Failure α) :
    (Failure.orThrow x : Script α).play h = Failure.orThrow x := by
  cases x <;> rfl

/-- A call that is written down is played as the call. -/
theorem play_perform (c : Call) : (handlers.perform c).play h = h.perform c := by
  rw [perform_eq, play]
  simp [Handlers.act, Failure.orThrow]

/-- A message that is written down is played as the message. -/
theorem play_announce (msg : Message) : (handlers.announce msg).play h = h.announce msg := by
  rw [announce_eq, play]
  simp [Handlers.act, Failure.orThrow]

/-- Scripts are played one after the other. -/
theorem play_bind (x : Script α) (f : α → Script β) :
    (x >>= f).play h = x.play h >>= fun a => (f a).play h := by
  obtain ⟨acts, outcome⟩ := x
  cases outcome with
  | error e =>
    rw [error_bind, play, play, bind_assoc]
    rfl
  | ok a =>
    rw [ok_bind]
    simp only [play, after, List.forM_eq_forM, List.forM_append, bind_assoc, Failure.orThrow,
      pure_bind]

/-- A list that is gone through is played item by item. -/
theorem play_mapM (f : α → Script β) (xs : List α) :
    (xs.mapM f).play h = xs.mapM fun x => (f x).play h := by
  induction xs with
  | nil => rfl
  | cons x xs ih => simp only [List.mapM_cons, play_bind, play_pure, ih]

/-- A list that is gone through without results is played item by item. -/
theorem play_forM (f : α → Script Unit) (xs : List α) :
    (xs.forM f).play h = xs.forM fun x => (f x).play h := by
  simp only [List.forM_eq_forM]
  induction xs with
  | nil => rfl
  | cons x xs ih => simp only [List.forM_cons, play_bind, ih]

/-- Writing a batch plays its script. -/
theorem play_write (b : Batch) (terminator : String) :
    (b.write handlers.perform terminator).play h = b.write h.perform terminator := by
  simp only [Batch.write, play_bind, play_orThrow, play_forM, play_perform, play_pure]

/-- Assembling, written down and played, is assembling. -/
theorem play_assemble (r : Runner) (variants : Int) (c : ClassInfo) :
    (r.assemble handlers variants c).play h = r.assemble h variants c := by
  simp only [Runner.assemble, play_bind, play_orThrow, play_announce, play_pure]

/-- A run of a runner plays its script. -/
theorem play_runner (r : Runner) (classes : List ClassInfo) (variants : Int) :
    (r.run handlers classes variants).play h = r.run h classes variants := by
  simp only [Runner.run, Runner.batch, play_bind, play_mapM, play_forM, play_assemble,
    play_announce, play_write, play_pure]

/-- Loading an entry, written down and played, is loading it. -/
theorem play_loadEntry (disk : Disk) (root : Path) (entry : String) :
    (Generation.loadEntry disk root handlers entry).play h =
      Generation.loadEntry disk root h entry := by
  simp only [Generation.loadEntry, play_bind, play_orThrow, play_announce, play_pure]

/-- A played script ends as the script does, unless an act fails. -/
theorem run_play (s : Script α) (x : σ) :
    (s.play h).run x =
      match h.carry s.acts x with
      | (.ok (), y) => (s.outcome, y)
      | (.error e, y) => (.error e, y) := by
  rw [play, RunM.run_bind, Handlers.forM_act_run]
  rcases h.carry s.acts x with ⟨e | ⟨⟩, y⟩
  · rfl
  · cases s.outcome with
    | ok a => rfl
    | error e => rfl

/-- A whole run plays its script, whatever its handlers do. -/
theorem play_generation (disk : Disk) (root : Path) (o : Overrides) (revise : Batch → Batch) :
    (Generation.run disk root o handlers revise).play h =
      Generation.run disk root o h revise := by
  have hif (p : Prop) [Decidable p] (x y : Script (List Path)) :
      (if p then x else y).play h = if p then x.play h else y.play h := by
    split <;> rfl
  simp only [Generation.run, play_bind, play_mapM, play_orThrow, play_loadEntry, play_announce,
    play_runner, play_pure, hif]

end Script
end TestSkeleton
