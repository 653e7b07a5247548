import TestSkeleton.CommandLine.Command
import TestSkeleton.Disk.Files
import TestSkeleton.Proofs.Message.Fill
import TestSkeleton.Proofs.Run.Draft
import TestSkeleton.Proofs.Run.Scene

/-!
# Messages and the outcome of runs

How far the way in which messages are shown reaches into a run. A listener looks up a template,
fills it in and hands the text to a renderer. What cannot be filled in is mostly contained there,
but a template that steps into an argument or gives a style to a path can meet a fault that ends the
run. The main statement gives the outcome of a run in any messaging environment: the outcome of the
silent run, or the first refusal of a message with the disk at that time.

Specification: `SPEC_FULL.md:219–225`.
-/

namespace TestSkeleton

open CommandLine Java

/-- Where the messages of runs go. A renderer accepts every text; lookups read template files in the
view of the disk, which may show other files there; templates may reach what is outside. -/
structure Messaging (τ : Type) where
  language : Option String := none
  view : Disk → Disk := id
  renderer : Option (Level → String → τ → τ) := none
  outside : Template.Outside := .none

/-- What a listener remembers: the tables of templates, and what the renderer has shown. -/
structure Heard (τ : Type) where
  catalog : Catalog
  shown : τ

/-- The disk as the adapter of a run to which nobody listens. -/
def Disk.handlers : Handlers (RunM Disk) where
  perform := Disk.perform
  announce _ := pure ()

namespace Messaging

variable {τ : Type} (e : Messaging τ)

/-- The template of a key, and the tables after it has been looked up. -/
def lookUp (disk : Disk) (key : Key) (catalog : Catalog) : Except Failure String × Catalog :=
  (Catalog.get { disk := e.view disk, language := e.language } key.path).run catalog

/-- The templates of an environment. -/
def source (disk : Disk) (key : String) : RunM (Heard τ) String := fun s =>
  let (result, catalog) := e.lookUp disk ⟨key⟩ s.catalog
  (result, { s with catalog })

/-- Shows a text, which always succeeds. -/
def show_ (render : Level → String → τ → τ) (level : Level) (text : String) :
    RunM (Heard τ) Unit :=
  modify fun s => { s with shown := render level text s.shown }

/-- The listener of an environment. -/
def listener : Listener Disk (Heard τ) := fun msg disk s =>
  (msg.send (e.source disk) (e.renderer.map show_) e.outside).run s

/-- The disk as the adapter, and the listener of an environment. -/
def handlers : Handlers (RunM (Scene Disk (Heard τ))) :=
  Scene.handlers (fun c disk => disk.after c) e.listener

/-- The outcome of a run in an environment, and the disk that it leaves. -/
def run (disk : Disk) (root : Path) (o : Overrides) (revise : Batch → Batch) (heard : Heard τ) :
    Except Failure (List Path) × Disk :=
  let (result, scene) :=
    (Generation.run disk root o e.handlers revise).run { store := disk, memory := heard }
  (result, scene.store)

/-! ### Refusals -/

/-- The failure that comes out of showing a message, if there is one: its template cannot be looked
up, or filling it in meets a fault. A template that is only rejected is contained. -/
def refusal? (msg : Message) (disk : Disk) (catalog : Catalog) : Option Failure :=
  match e.renderer with
  | none => none
  | some _ =>
    match (e.lookUp disk msg.key catalog).1 with
    | .error f => some f
    | .ok template =>
      match Template.fill template msg.arguments e.outside with
      | .ok _ | .error .rejected => none
      | .error (.fault f) => some (.fault f)

/-- The tables after a message. -/
def catalogAfter (msg : Message) (disk : Disk) (catalog : Catalog) : Catalog :=
  match e.renderer with
  | none => catalog
  | some _ => (e.lookUp disk msg.key catalog).2

/-- The first refusal among acts that are carried out on a disk, with the disk at that time. There
is none after a call that fails. -/
def firstRefusal : List Act → Disk → Catalog → Option (Failure × Disk)
  | [], _, _ => none
  | .tell msg :: acts, disk, catalog =>
    match e.refusal? msg disk catalog with
    | some f => some (f, disk)
    | none => firstRefusal acts disk (e.catalogAfter msg disk catalog)
  | .make c :: acts, disk, catalog =>
    match disk.after c with
    | (.ok (), disk) => firstRefusal acts disk catalog
    | (.error _, _) => none

/-- Without a renderer no message is refused. -/
theorem firstRefusal_of_no_renderer (he : e.renderer = none) (acts : List Act) (disk : Disk)
    (catalog : Catalog) : e.firstRefusal acts disk catalog = none := by
  induction acts generalizing disk catalog with
  | nil => rfl
  | cons a acts ih =>
    cases a with
    | tell msg =>
      rw [firstRefusal, refusal?, he]
      exact ih disk _
    | make c =>
      rw [firstRefusal]
      split
      · exact ih _ catalog
      · rfl

/-- Whether the arguments of a message have names of their own. -/
def Sendable (msg : Message) : Prop := checkNames sentNames msg.arguments = .ok ()

private theorem listener_of_none (he : e.renderer = none) {msg : Message} (h : Sendable msg)
    (disk : Disk) (s : Heard τ) : e.listener msg disk s = (.ok (), s) := by
  rw [listener, he, Message.send.eq_def, h]
  rfl

/-- With a renderer a listener looks up the template, fills it in and shows the text. -/
theorem listener_of_some {render : Level → String → τ → τ} (he : e.renderer = some render)
    {msg : Message} (h : Sendable msg) (disk : Disk) (s : Heard τ) :
    e.listener msg disk s =
      match e.lookUp disk msg.key s.catalog with
      | (.error f, catalog) => (.error f, { s with catalog })
      | (.ok template, catalog) =>
        match msg.key.fillIn template msg.arguments e.outside with
        | .error f => (.error f, { s with catalog })
        | .ok text => (.ok (), { catalog, shown := render msg.level text s.shown }) := by
  rw [listener, he, Message.send.eq_def, h]
  simp only [Failure.orThrow, pure_bind, Option.map_some, RunM.run_bind, Key.render]
  have hsource : (e.source disk msg.key.path).run s =
      ((e.lookUp disk msg.key s.catalog).1,
        { s with catalog := (e.lookUp disk msg.key s.catalog).2 }) := rfl
  rw [hsource]
  rcases e.lookUp disk msg.key s.catalog with ⟨f | template, catalog⟩
  · rfl
  · dsimp only
    cases msg.key.fillIn template msg.arguments e.outside with
    | error f => rfl
    | ok text => rfl

/-- A listener fails with the refusal of a message, and else hears it. -/
theorem listener_eq {msg : Message} (h : Sendable msg) (disk : Disk) (s : Heard τ) :
    match e.refusal? msg disk s.catalog with
    | some f => (e.listener msg disk s).1 = .error f
    | none =>
      (e.listener msg disk s).1 = .ok () ∧
        (e.listener msg disk s).2.catalog = e.catalogAfter msg disk s.catalog := by
  cases he : e.renderer with
  | none =>
    rw [listener_of_none e he h, refusal?, catalogAfter, he]
    exact ⟨rfl, rfl⟩
  | some render =>
    rw [listener_of_some e he h, refusal?, catalogAfter, he]
    rcases e.lookUp disk msg.key s.catalog with ⟨f | template, catalog⟩
    · rfl
    · simp only [Key.fillIn]
      rcases Template.fill template msg.arguments e.outside with (_ | f) | text
      · exact ⟨rfl, rfl⟩
      · rfl
      · exact ⟨rfl, rfl⟩

/-- Acts in an environment come to the first refusal, or to what they come to in silence. -/
theorem carry_eq (acts : List Act) (h : ∀ msg, .tell msg ∈ acts → Sendable msg)
    (s : Scene Disk (Heard τ)) :
    ((e.handlers.carry acts s).1, (e.handlers.carry acts s).2.store) =
      match e.firstRefusal acts s.store s.memory.catalog with
      | some (f, disk) => (.error f, disk)
      | none => Disk.handlers.carry acts s.store := by
  induction acts generalizing s with
  | nil => rfl
  | cons a acts ih =>
    cases a with
    | tell msg =>
      have heq := e.listener_eq (h msg (by simp)) s.store s.memory
      rw [firstRefusal, Handlers.carry, handlers, Scene.act_tell]
      cases hr : e.refusal? msg s.store s.memory.catalog with
      | some f =>
        rw [hr] at heq
        rw [heq]
      | none =>
        rw [hr] at heq
        rw [heq.1, ← heq.2]
        exact ih (fun msg hmsg => h msg (by simp [hmsg])) _
    | make c =>
      have hsilent : ((Disk.handlers.act (.make c)).run s.store : Except Failure Unit × Disk) =
          s.store.after c := rfl
      rw [firstRefusal, Handlers.carry, handlers, Scene.act_make, Handlers.carry, hsilent]
      rcases s.store.after c with ⟨f | ⟨⟩, disk⟩
      · rfl
      · exact ih (fun msg hmsg => h msg (by simp [hmsg])) _

/-! ### Runs -/

/-- The messages of a run can be sent. -/
theorem sendable_of_isMessage {msg : Message} (h : Generation.IsMessage msg) : Sendable msg := by
  cases h <;> rfl

/-- A run among what earlier runs have left comes to its first refusal, or to what it comes to in
silence. -/
theorem run_scene_eq (root : Path) (o : Overrides) (revise : Batch → Batch)
    (s : Scene Disk (Heard τ)) :
    (((Generation.run s.store root o e.handlers revise).run s).1,
        ((Generation.run s.store root o e.handlers revise).run s).2.store) =
      match e.firstRefusal (Generation.script s.store root o revise).acts s.store
          s.memory.catalog with
      | some (f, left) => (.error f, left)
      | none => (Generation.run s.store root o Disk.handlers revise).run s.store := by
  have hcarry := e.carry_eq (Generation.script s.store root o revise).acts
    (fun _ h => sendable_of_isMessage (Generation.isMessage_of_mem_script h)) s
  rw [Generation.run_eq_carry, Generation.run_eq_carry]
  generalize e.handlers.carry (Generation.script s.store root o revise).acts s = carried
    at hcarry ⊢
  generalize e.firstRefusal (Generation.script s.store root o revise).acts s.store
    s.memory.catalog = refusal at hcarry ⊢
  obtain ⟨result, scene⟩ := carried
  cases refusal with
  | some refusal =>
    obtain ⟨f, left⟩ := refusal
    obtain ⟨rfl, rfl⟩ := Prod.mk.inj hcarry
    rfl
  | none =>
    -- without a refusal the acts come to what they come to in silence
    dsimp only at hcarry ⊢
    rw [← hcarry]
    rcases result with f | ⟨⟩
    · rfl
    · rfl

/-- A run in any messaging environment has the outcome of the silent run and leaves the same disk,
unless a message is refused: then it ends with that refusal, and the disk is left as it was at that
time. -/
theorem run_eq (disk : Disk) (root : Path) (o : Overrides) (revise : Batch → Batch)
    (heard : Heard τ) :
    e.run disk root o revise heard =
      match e.firstRefusal (Generation.script disk root o revise).acts disk heard.catalog with
      | some (f, left) => (.error f, left)
      | none => (Generation.run disk root o Disk.handlers revise).run disk :=
  e.run_scene_eq root o revise { store := disk, memory := heard }

/-- A scene of the command as its session. -/
def session (s : Scene Disk (Heard String)) : Session where
  disk := s.store
  catalog := s.memory.catalog
  output := s.memory.shown

/-- Two environments in which no message is refused cannot be told apart by a run: it has the same
outcome in them and leaves the same disk. Where a message is refused, the run ends with the first
refusal and leaves the disk of that time. An environment without a renderer refuses no message. -/
theorem environments_agree {τ' : Type} (e : Messaging τ) (e' : Messaging τ') (disk : Disk)
    (root : Path) (o : Overrides) (revise : Batch → Batch) (heard : Heard τ) (heard' : Heard τ') :
    (e.firstRefusal (Generation.script disk root o revise).acts disk heard.catalog = none →
        e'.firstRefusal (Generation.script disk root o revise).acts disk heard'.catalog = none →
        e.run disk root o revise heard = e'.run disk root o revise heard') ∧
      (∀ f left,
        e.firstRefusal (Generation.script disk root o revise).acts disk heard.catalog =
            some (f, left) →
          e.run disk root o revise heard = (.error f, left)) ∧
      (e.renderer = none →
        e.firstRefusal (Generation.script disk root o revise).acts disk heard.catalog = none) := by
  refine ⟨fun h h' => ?_, fun f left h => ?_, fun h => e.firstRefusal_of_no_renderer h _ _ _⟩
  · rw [e.run_eq, h, e'.run_eq, h']
  · rw [e.run_eq, h]

/-- Messages can influence a run: a template of the project that steps into a number ends it. -/
theorem messages_influence_runs :
    ¬ ∀ (disk : Disk) (root : Path) (o : Overrides) (e e' : Messaging Unit) (heard : Heard Unit),
      e.run disk root o id heard = e'.run disk root o id heard := by
  intro h
  let root : Path := .ofString "/p"
  let disk : Disk := (Disk.empty.makeDirs (root.joinText "d")).2.put
    (root.joinText ".stubwright/needle/en/generate.json")
    "\x7b\"generate.descriptor.loaded\": \"\x7bcount.x\x7d\"\x7d".toUTF8
  let shown : Messaging Unit := { renderer := some fun _ _ _ => () }
  let heard : Heard Unit := { catalog := { roots := [.directory root] }, shown := () }
  have heq := h disk root { descriptors := some ["d"] } shown {} heard
  have hshown : (shown.run disk root { descriptors := some ["d"] } id heard).1.isOk = false := by
    decide +kernel
  have hsilent : (({} : Messaging Unit).run disk root { descriptors := some ["d"] } id
      heard).1.isOk = true := by decide +kernel
  rw [heq, hsilent] at hshown
  cases hshown

end Messaging
end TestSkeleton
