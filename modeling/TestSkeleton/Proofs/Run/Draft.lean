import TestSkeleton.Proofs.Outcome
import TestSkeleton.Proofs.Run.Script

/-!
# Drafts of runs

What a run works out before it writes: its settings, the classes of its descriptor paths and the
batch with every body and target, sizes checked. A draft is found without acts. The main statements
give the script of a run by its draft: messages alone where there is none, and otherwise the opening
messages, the calls of the batch and the closing messages, in this order.
-/

namespace TestSkeleton

open Java

namespace Runner

/-- The batch of a run, with equally many bodies and targets. -/
def checkedBatch (r : Runner) (classes : List ClassInfo) (variants : Int) :
    Except Failure Batch := do
  let bodies ← classes.mapM (r.body · variants)
  let batch := r.revise { bodies, targets := classes.map r.placement.target }
  batch.check
  return batch

/-- A checked batch holds all bodies, as far as the revision keeps them. -/
theorem checkedBatch_eq_ok {r : Runner} {classes : List ClassInfo} {variants : Int} {b : Batch} :
    r.checkedBatch classes variants = .ok b ↔
      ∃ bodies, classes.mapM (r.body · variants) = .ok bodies ∧
        b = r.revise { bodies, targets := classes.map r.placement.target } ∧
        b.check = .ok () := by
  rw [checkedBatch, Outcome.bind_eq_ok]
  refine exists_congr fun bodies => and_congr_right fun _ => ?_
  rw [Outcome.bind_eq_ok]
  constructor
  · rintro ⟨⟨⟩, hc, hb⟩
    cases hb
    exact ⟨rfl, hc⟩
  · rintro ⟨rfl, hc⟩
    exact ⟨(), hc, rfl⟩

/-- A batch is not checked where a body is missing or where the sizes differ. -/
theorem checkedBatch_eq_error {r : Runner} {classes : List ClassInfo} {variants : Int}
    {e : Failure} :
    r.checkedBatch classes variants = .error e ↔
      classes.mapM (r.body · variants) = .error e ∨
        ∃ bodies, classes.mapM (r.body · variants) = .ok bodies ∧
          (r.revise { bodies, targets := classes.map r.placement.target }).check = .error e := by
  rw [checkedBatch, Outcome.bind_eq_error]
  refine or_congr_right (exists_congr fun bodies => and_congr_right fun _ => ?_)
  rw [Outcome.bind_eq_error]
  constructor
  · rintro (hc | ⟨-, -, hb⟩)
    · exact hc
    · cases hb
  · exact .inl

end Runner

/-- What a run that writes has worked out before. -/
structure Draft where
  settings : Settings
  /-- The classes of each descriptor path. -/
  loads : List (List ClassInfo)
  batch : Batch

namespace Draft

/-- All classes of a draft. -/
def classes (d : Draft) : List ClassInfo := d.loads.flatten

/-- The reports on the descriptor paths of settings. -/
def loadReports (settings : Settings) (loads : List (List ClassInfo)) : List Message :=
  settings.descriptors.zipWith (fun entry classes => .loaded classes.length entry) loads

/-- The reports on the assembled bodies of classes. -/
def bodyReports (classes : List ClassInfo) (variants : Int) : List Message :=
  classes.map fun c => .assembled c.simpleName (c.publicMethods.length * variants)

/-- The messages of a run before its first call. -/
def openingOf (settings : Settings) (loads : List (List ClassInfo)) : List Message :=
  loadReports settings loads ++
    .started loads.flatten.length settings.outputPath ::
      bodyReports loads.flatten settings.variants

/-- The messages before the first call. -/
def opening (d : Draft) : List Message := openingOf d.settings d.loads

/-- The messages after the last call. -/
def closing (d : Draft) : List Message :=
  d.batch.targets.map .written ++ [.completed d.batch.targets.length]

/-- Everything that a run does, if no act fails. -/
def acts (d : Draft) : List Act :=
  d.opening.map .tell ++ (d.batch.calls d.settings.lineSeparator).map .make ++
    d.closing.map .tell

end Draft

namespace Generation

/-- The settings of a run with its runner and the classes of its descriptor paths. -/
structure Loaded where
  settings : Settings
  runner : Runner
  loads : List (List ClassInfo)

/-- Reads settings, framework and classes. -/
def load (disk : Disk) (root : Path) (o : Overrides) (revise : Batch → Batch) :
    Except Failure Loaded := do
  let settings ← Settings.loadWith disk root o
  let runner ← runner root settings revise
  let loads ← settings.descriptors.mapM fun entry => Manifest.load disk (root.joinText entry)
  return { settings, runner, loads }

/-- The draft of a run in a project; none if there are no classes. -/
def draft (disk : Disk) (root : Path) (o : Overrides) (revise : Batch → Batch) :
    Except Failure (Option Draft) := do
  let l ← load disk root o revise
  if l.loads.flatten.isEmpty then return none
  else
    let batch ← l.runner.checkedBatch l.loads.flatten l.settings.variants
    return some { settings := l.settings, loads := l.loads, batch }

/-- The script of a run in a project. -/
def script (disk : Disk) (root : Path) (o : Overrides) (revise : Batch → Batch) :
    Script (List Path) :=
  run disk root o Script.handlers revise

end Generation

namespace Script

variable {α β : Type}

/-- A computation that tells of its result when it has one. -/
def told (g : α → Except Failure β) (msg : α → β → Message) (x : α) : Script β := do
  let y ← Failure.orThrow (g x)
  handlers.announce (msg x y)
  return y

/-- The results of a list up to the first failure. -/
def resultsBefore (g : α → Except Failure β) : List α → List β
  | [] => []
  | x :: xs =>
    match g x with
    | .ok y => y :: resultsBefore g xs
    | .error _ => []

private theorem told_ok {g : α → Except Failure β} {x : α} {y : β} (h : g x = .ok y)
    (msg : α → β → Message) : told g msg x = ⟨[.tell (msg x y)], .ok y⟩ := by
  rw [told, h]
  rfl

private theorem told_error {g : α → Except Failure β} {x : α} {e : Failure} (h : g x = .error e)
    (msg : α → β → Message) : told g msg x = ⟨[], .error e⟩ := by
  rw [told, h]
  rfl

/-- A list of told computations tells of the results before the first failure. -/
theorem mapM_told (g : α → Except Failure β) (msg : α → β → Message) (xs : List α) :
    xs.mapM (told g msg) =
      ⟨(xs.zipWith msg (resultsBefore g xs)).map .tell, xs.mapM g⟩ := by
  induction xs with
  | nil => rfl
  | cons x xs ih =>
    rw [List.mapM_cons, List.mapM_cons, resultsBefore]
    cases hx : g x with
    | error e => rw [told_error hx]; rfl
    | ok y =>
      rw [told_ok hx, ok_bind, ih]
      cases hxs : xs.mapM g <;> simp [bind, andThen, after, Except.bind, pure, Except.pure]

/-- Without a failure the results are those of the whole list. -/
theorem resultsBefore_of_ok {g : α → Except Failure β} {xs : List α} {ys : List β}
    (h : xs.mapM g = .ok ys) : resultsBefore g xs = ys := by
  induction xs generalizing ys with
  | nil => cases h; rfl
  | cons x xs ih =>
    rw [List.mapM_cons] at h
    cases hx : g x with
    | error e => rw [hx] at h; cases h
    | ok y =>
      cases hxs : xs.mapM g with
      | error e => rw [hx, hxs] at h; cases h
      | ok zs =>
        rw [hx, hxs] at h
        cases h
        rw [resultsBefore, hx, ih hxs]

/-- All items before the first failure have a result. -/
theorem exists_ok_of_mem_take {g : α → Except Failure β} {xs : List α} :
    ∀ x ∈ xs.take (resultsBefore g xs).length, ∃ y, g x = .ok y := by
  induction xs with
  | nil => nofun
  | cons x xs ih =>
    rw [resultsBefore]
    cases hx : g x with
    | error e => nofun
    | ok y =>
      intro x' hx'
      rcases List.mem_cons.mp hx' with rfl | hx'
      · exact ⟨y, hx⟩
      · exact ih x' hx'

/-- The results before the first failure are the first ones of any function that has them. -/
theorem resultsBefore_eq_take {g : α → Except Failure β} {f : α → β}
    (hf : ∀ x y, g x = .ok y → f x = y) (xs : List α) :
    resultsBefore g xs = (xs.map f).take (resultsBefore g xs).length := by
  induction xs with
  | nil => rfl
  | cons x xs ih =>
    rw [resultsBefore]
    cases hx : g x with
    | error e => rfl
    | ok y => rw [List.length_cons, List.map_cons, List.take_succ_cons, hf x y hx, ← ih]

/-- There are no more results than items. -/
theorem length_resultsBefore_le (g : α → Except Failure β) (xs : List α) :
    (resultsBefore g xs).length ≤ xs.length := by
  induction xs with
  | nil => exact Nat.le_refl 0
  | cons x xs ih =>
    rw [resultsBefore]
    cases g x with
    | error e => exact Nat.zero_le _
    | ok y => exact Nat.succ_le_succ ih

/-- Acts that cannot fail, one for each item. -/
theorem forM_act (f : α → Act) (xs : List α) :
    (xs.forM fun x => (⟨[f x], .ok ()⟩ : Script Unit)) = ⟨xs.map f, .ok ()⟩ := by
  simp only [List.forM_eq_forM]
  induction xs with
  | nil => rfl
  | cons x xs ih => rw [List.forM_cons, ih]; rfl

/-! ### Scripts by drafts -/

private theorem write_of_check {b : Batch} (h : b.check = .ok ()) (terminator : String) :
    b.write handlers.perform terminator =
      ⟨(b.calls terminator).map .make, .ok b.targets⟩ := by
  have hcalls : (b.calls terminator).forM handlers.perform =
      ⟨(b.calls terminator).map .make, .ok ()⟩ := forM_act Act.make _
  rw [Batch.write, h, orThrow_eq, ok_bind, after_nil, hcalls, ok_bind, pure_eq, after_mk,
    List.append_nil]

private theorem write_of_check_error {b : Batch} {e : Failure} (h : b.check = .error e)
    (terminator : String) : b.write handlers.perform terminator = ⟨[], .error e⟩ := by
  rw [Batch.write, h, orThrow_eq, error_bind]

private theorem zipWith_left (f : α → Message) (xs : List α) (ys : List β)
    (h : ys.length ≤ xs.length) :
    xs.zipWith (fun x _ => f x) ys = (xs.map f).take ys.length := by
  induction xs generalizing ys with
  | nil => simp
  | cons x xs ih =>
    cases ys with
    | nil => rfl
    | cons y ys =>
      simp only [List.length_cons, Nat.add_le_add_iff_right] at h
      simp only [List.zipWith_cons_cons, List.map_cons, List.length_cons, List.take_succ_cons, ih ys h]

private theorem batch_eq (r : Runner) (classes : List ClassInfo) (variants : Int) :
    r.batch handlers classes variants =
      ⟨((Draft.bodyReports classes variants).take
          (resultsBefore (r.body · variants) classes).length).map .tell,
        (classes.mapM (r.body · variants)).map fun bodies =>
          { bodies, targets := classes.map r.placement.target }⟩ := by
  have hassemble : classes.mapM (r.assemble handlers variants) = classes.mapM
      (told (r.body · variants)
        fun c _ => .assembled c.simpleName (c.publicMethods.length * variants)) := rfl
  rw [Runner.batch, hassemble, mapM_told,
    zipWith_left _ _ _ (length_resultsBefore_le _ classes), ← Draft.bodyReports]
  cases classes.mapM (r.body · variants) with
  | error e => rfl
  | ok bodies => rw [ok_bind, pure_eq, after_mk, List.append_nil]; rfl

/-- A runner that gets no checked batch only tells of bodies. -/
theorem runner_of_error {r : Runner} {classes : List ClassInfo} {variants : Int} {e : Failure}
    (h : r.checkedBatch classes variants = .error e) :
    r.run handlers classes variants =
      ⟨((Draft.bodyReports classes variants).take
          (resultsBefore (r.body · variants) classes).length).map .tell, .error e⟩ := by
  rw [Runner.run, batch_eq]
  rcases Runner.checkedBatch_eq_error.mp h with hb | ⟨bodies, hb, hc⟩
  · rw [hb]
    rfl
  · simp only [hb, Except.map, ok_bind, write_of_check_error hc, error_bind, after_mk,
      List.append_nil]

/-- A runner that gets a checked batch tells of every body, writes the batch and tells of every
file. -/
theorem runner_of_ok {r : Runner} {classes : List ClassInfo} {variants : Int} {b : Batch}
    (h : r.checkedBatch classes variants = .ok b) :
    r.run handlers classes variants =
      ⟨(Draft.bodyReports classes variants).map .tell ++
        ((b.calls r.terminator).map .make ++ (b.targets.map Message.written).map .tell),
        .ok b.targets⟩ := by
  obtain ⟨bodies, hb, rfl, hc⟩ := Runner.checkedBatch_eq_ok.mp h
  have hlen : (resultsBefore (r.body · variants) classes).length =
      (Draft.bodyReports classes variants).length := by
    rw [resultsBefore_of_ok hb, Outcome.length_of_mapM hb, Draft.bodyReports, List.length_map]
  have hfiles (ps : List Path) : (ps.forM fun p => handlers.announce (.written p)) =
      ⟨(ps.map Message.written).map .tell, .ok ()⟩ := by
    rw [List.map_map]
    exact forM_act (fun p => .tell (.written p)) ps
  rw [Runner.run, batch_eq, hlen, List.take_length, hb]
  simp only [Except.map, ok_bind, write_of_check hc, hfiles, pure_eq, after_mk, List.append_nil]

private theorem loads_eq (disk : Disk) (root : Path) (entries : List String) :
    entries.mapM (Generation.loadEntry disk root handlers) =
      ⟨(entries.zipWith (fun entry classes => .loaded classes.length entry)
          (resultsBefore (fun entry => Manifest.load disk (root.joinText entry)) entries)).map .tell,
        entries.mapM fun entry => Manifest.load disk (root.joinText entry)⟩ :=
  mapM_told _ _ entries

end Script

namespace Generation

variable {disk : Disk} {root : Path} {o : Overrides} {revise : Batch → Batch}

/-- A run loads its settings, makes its runner and loads all its manifests. -/
theorem load_eq_ok {l : Loaded} :
    load disk root o revise = .ok l ↔
      Settings.loadWith disk root o = .ok l.settings ∧
        runner root l.settings revise = .ok l.runner ∧
        (l.settings.descriptors.mapM fun entry => Manifest.load disk (root.joinText entry)) =
          .ok l.loads := by
  rw [load, Outcome.bind_eq_ok]
  constructor
  · rintro ⟨settings, hs, h⟩
    obtain ⟨r, hr, h⟩ := Outcome.bind_eq_ok.mp h
    obtain ⟨loads, hl, h⟩ := Outcome.bind_eq_ok.mp h
    cases h
    exact ⟨hs, hr, hl⟩
  · rintro ⟨hs, hr, hl⟩
    exact ⟨_, hs, Outcome.bind_eq_ok.mpr ⟨_, hr, Outcome.bind_eq_ok.mpr ⟨_, hl, rfl⟩⟩⟩

/-- A run carries out the acts of its script and ends as the script does, unless an act fails. -/
theorem run_eq_carry {σ : Type} (hs : Handlers (RunM σ)) (start : σ) :
    (run disk root o hs revise).run start =
      match hs.carry (script disk root o revise).acts start with
      | (.ok (), final) => ((script disk root o revise).outcome, final)
      | (.error e, final) => (.error e, final) := by
  calc (run disk root o hs revise).run start
      = ((script disk root o revise).play hs).run start := by rw [script, Script.play_generation]
    _ = _ := Script.run_play hs _ start

/-- What a run leaves behind is what the acts of its script leave behind. -/
theorem snd_run {σ : Type} (hs : Handlers (RunM σ)) (start : σ) :
    ((run disk root o hs revise).run start : Except Failure (List Path) × σ).2 =
      (hs.carry (script disk root o revise).acts start).2 := by
  rw [run_eq_carry]
  rcases hs.carry (script disk root o revise).acts start with ⟨e | ⟨⟩, final⟩
  · rfl
  · rfl

/-- The script of a run that loads all of its descriptor paths. -/
theorem script_of_load {l : Loaded} (h : load disk root o revise = .ok l) :
    script disk root o revise =
      Script.after ((Draft.loadReports l.settings l.loads).map .tell)
        (if l.loads.flatten.isEmpty then ⟨[.tell .nothingFound], .ok []⟩
        else do
          Script.handlers.announce (.started l.loads.flatten.length l.settings.outputPath)
          let written ← l.runner.run Script.handlers l.loads.flatten l.settings.variants
          Script.handlers.announce (.completed written.length)
          return written) := by
  obtain ⟨hs, hr, hl⟩ := load_eq_ok.mp h
  rw [script, run, hs, Script.orThrow_eq, Script.ok_bind, Script.after_nil, hr, Script.orThrow_eq,
    Script.ok_bind, Script.after_nil, Script.loads_eq, hl, Script.ok_bind,
    Script.resultsBefore_of_ok hl, ← Draft.loadReports]
  rfl

/-- A run that cannot load tells of the descriptor paths before the first failure, or does nothing
where it has no settings or no runner. -/
theorem script_of_load_error {e : Failure} (h : load disk root o revise = .error e) :
    script disk root o revise = ⟨[], .error e⟩ ∨
      ∃ settings r, Settings.loadWith disk root o = .ok settings ∧
        runner root settings revise = .ok r ∧
        script disk root o revise =
          ⟨(Draft.loadReports settings (Script.resultsBefore
            (fun entry => Manifest.load disk (root.joinText entry)) settings.descriptors)).map .tell,
            .error e⟩ := by
  rw [load] at h
  rcases Outcome.bind_eq_error.mp h with hs | ⟨settings, hs, h⟩
  · left
    rw [script, run, hs, Script.orThrow_eq, Script.error_bind]
  · rcases Outcome.bind_eq_error.mp h with hr | ⟨r, hr, h⟩
    · left
      rw [script, run, hs, Script.orThrow_eq, Script.ok_bind, Script.after_nil, hr,
        Script.orThrow_eq, Script.error_bind]
    · refine .inr ⟨settings, r, hs, hr, ?_⟩
      rcases Outcome.bind_eq_error.mp h with hl | ⟨loads, hl, h⟩
      · rw [script, run, hs, Script.orThrow_eq, Script.ok_bind, Script.after_nil, hr,
          Script.orThrow_eq, Script.ok_bind, Script.after_nil, Script.loads_eq, hl,
          Script.error_bind, Draft.loadReports]
      · cases h

/-- After loading, only the batch can stand in the way of a draft. -/
theorem draft_of_load {l : Loaded} (h : load disk root o revise = .ok l) :
    draft disk root o revise =
      if l.loads.flatten.isEmpty then .ok none
      else (l.runner.checkedBatch l.loads.flatten l.settings.variants).map fun batch =>
        some { settings := l.settings, loads := l.loads, batch } := by
  rw [draft, h]
  change (if l.loads.flatten.isEmpty then _ else _) = _
  split
  · rfl
  · cases l.runner.checkedBatch l.loads.flatten l.settings.variants <;> rfl

/-- A draft fails as its loading does. -/
theorem draft_of_load_error {e : Failure} (h : load disk root o revise = .error e) :
    draft disk root o revise = .error e := by
  rw [draft, h]
  rfl

/-- The records of a run end as its settings say. -/
theorem runner_terminator {s : Settings} {r : Runner} (h : runner root s revise = .ok r) :
    r.terminator = s.lineSeparator := by
  obtain ⟨f, -, h⟩ := Outcome.bind_eq_ok.mp h
  cases h
  rfl

/-- The runner of a run changes batches as the run does. -/
theorem runner_revise {s : Settings} {r : Runner} (h : runner root s revise = .ok r) :
    r.revise = revise := by
  obtain ⟨f, -, h⟩ := Outcome.bind_eq_ok.mp h
  cases h
  rfl

/-- A run without a draft breaks off its opening messages and fails as the draft does. -/
theorem script_of_error {e : Failure} (h : draft disk root o revise = .error e) :
    ∃ settings loads n, script disk root o revise =
      ⟨((Draft.openingOf settings loads).take n).map .tell, .error e⟩ := by
  cases hl : load disk root o revise with
  | error e' =>
    obtain rfl : e' = e := by rwa [draft_of_load_error hl, Except.error.injEq] at h
    rcases script_of_load_error hl with hs | ⟨settings, r, -, -, hs⟩
    · exact ⟨.standard, [], 0, hs⟩
    · generalize Script.resultsBefore _ settings.descriptors = loads at hs
      refine ⟨settings, loads, (Draft.loadReports settings loads).length, ?_⟩
      rw [hs, Draft.openingOf, List.take_left]
  | ok l =>
    rw [draft_of_load hl] at h
    split at h
    · cases h
    · next hne =>
      have hrunner := Script.runner_of_error (Outcome.map_eq_error.mp h)
      generalize (Script.resultsBefore _ l.loads.flatten).length = n at hrunner
      refine ⟨l.settings, l.loads, (Draft.loadReports l.settings l.loads).length + (n + 1), ?_⟩
      rw [script_of_load hl, if_neg hne, Script.announce_eq, Script.ok_bind, hrunner,
        Script.error_bind, Script.after_mk, Script.after_mk, Draft.openingOf,
        List.take_length_add_append, List.take_succ_cons, List.map_append, List.map_cons]
      rfl

/-- A run that finds no classes tells of its descriptor paths and that there is nothing to do. -/
theorem script_of_none (h : draft disk root o revise = .ok none) :
    ∃ settings loads, Settings.loadWith disk root o = .ok settings ∧
      (settings.descriptors.mapM fun entry => Manifest.load disk (root.joinText entry)) =
        .ok loads ∧ loads.flatten = [] ∧
      script disk root o revise =
        ⟨(Draft.loadReports settings loads ++ [Message.nothingFound]).map .tell, .ok []⟩ := by
  cases hl : load disk root o revise with
  | error e => rw [draft_of_load_error hl] at h; cases h
  | ok l =>
    obtain ⟨hs, -, hloads⟩ := load_eq_ok.mp hl
    rw [draft_of_load hl] at h
    split at h
    · next he =>
      refine ⟨l.settings, l.loads, hs, hloads, List.isEmpty_iff.mp he, ?_⟩
      rw [script_of_load hl, if_pos he, Script.after_mk, List.map_append]
      rfl
    · obtain ⟨b, -, hb⟩ := Outcome.map_eq_ok.mp h
      cases hb

/-- A run with a draft does what the draft says and returns its targets. -/
theorem script_of_some {d : Draft} (h : draft disk root o revise = .ok (some d)) :
    script disk root o revise = ⟨d.acts, .ok d.batch.targets⟩ := by
  cases hl : load disk root o revise with
  | error e => rw [draft_of_load_error hl] at h; cases h
  | ok l =>
    rw [draft_of_load hl] at h
    split at h
    · cases h
    · next hne =>
      obtain ⟨b, hc, hb⟩ := Outcome.map_eq_ok.mp h
      cases hb
      obtain ⟨-, hr, -⟩ := load_eq_ok.mp hl
      rw [script_of_load hl, if_neg hne, Script.announce_eq, Script.ok_bind,
        Script.runner_of_ok hc, Script.ok_bind, Script.announce_eq, Script.ok_bind,
        Script.pure_eq, runner_terminator hr]
      simp only [Script.after_mk, Draft.acts, Draft.opening, Draft.openingOf, Draft.closing,
        List.map_append, List.map_cons, List.map_nil, List.append_assoc, List.cons_append,
        List.nil_append, List.append_nil]

/-! ### The messages of a run -/

/-- The messages that a run may send. -/
inductive IsMessage : Message → Prop
  | loaded (count : Nat) (entry : String) : IsMessage (.loaded count entry)
  | nothingFound : IsMessage .nothingFound
  | started (count : Nat) (output : String) : IsMessage (.started count output)
  | assembled (name : Value) (stubs : Int) : IsMessage (.assembled name stubs)
  | written (path : Path) : IsMessage (.written path)
  | completed (count : Nat) : IsMessage (.completed count)

/-- What a run says before it assembles are its messages. -/
theorem isMessage_openingOf (settings : Settings) (loads : List (List ClassInfo)) :
    ∀ msg ∈ Draft.openingOf settings loads, IsMessage msg := by
  intro msg hmsg
  rw [Draft.openingOf, List.mem_append, List.mem_cons] at hmsg
  rcases hmsg with hmsg | rfl | hmsg
  · rw [Draft.loadReports, ← List.map_uncurry_zip_eq_zipWith] at hmsg
    obtain ⟨x, -, rfl⟩ := List.mem_map.mp hmsg
    exact .loaded _ _
  · exact .started _ _
  · obtain ⟨c, -, rfl⟩ := List.mem_map.mp hmsg
    exact .assembled _ _

private theorem isMessage_closing (d : Draft) : ∀ msg ∈ d.closing, IsMessage msg := by
  intro msg hmsg
  rw [Draft.closing, List.mem_append, List.mem_singleton] at hmsg
  rcases hmsg with hmsg | rfl
  · obtain ⟨p, -, rfl⟩ := List.mem_map.mp hmsg
    exact .written p
  · exact .completed _

/-- The acts of a run are calls and messages of its own kinds. -/
theorem isMessage_of_mem_script {msg : Message}
    (h : .tell msg ∈ (script disk root o revise).acts) : IsMessage msg := by
  have htell : ∀ {msgs : List Message}, Act.tell msg ∈ msgs.map .tell → msg ∈ msgs := by
    intro msgs h
    obtain ⟨msg', hmsg, heq⟩ := List.mem_map.mp h
    cases heq
    exact hmsg
  cases hd : draft disk root o revise with
  | error e =>
    obtain ⟨settings, loads, n, hs⟩ := script_of_error hd
    rw [hs] at h
    exact isMessage_openingOf settings loads msg (List.mem_of_mem_take (htell h))
  | ok found =>
    cases found with
    | none =>
      obtain ⟨settings, loads, -, -, -, hs⟩ := script_of_none hd
      rw [hs] at h
      rcases List.mem_append.mp (htell h) with hmsg | hmsg
      · exact isMessage_openingOf settings loads msg (List.mem_append_left _ hmsg)
      · rw [List.mem_singleton.mp hmsg]
        exact .nothingFound
    | some d =>
      rw [script_of_some hd, Draft.acts] at h
      rcases List.mem_append.mp h with h | h
      · rcases List.mem_append.mp h with h | h
        · exact isMessage_openingOf d.settings d.loads msg (htell h)
        · obtain ⟨c, -, heq⟩ := List.mem_map.mp h
          cases heq
      · exact isMessage_closing d msg (htell h)

end Generation
end TestSkeleton
