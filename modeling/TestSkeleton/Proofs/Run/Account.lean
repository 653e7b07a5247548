import Mathlib.Algebra.GroupWithZero.Nat
import TestSkeleton.Message.Log
import TestSkeleton.Proofs.Run.Bodies
import TestSkeleton.Proofs.Run.Messaging

/-!
# What a run tells

The messages of a run as one account: what each descriptor path holds, then either that there is
nothing to do, or the start, the tests of every class, every file and the end. A log that listens to
a run takes down its account from the start, and as far as it goes the account is true. Success is
told at the end only, after the last call of the batch has succeeded.

Specification: `SPEC_FULL.md:226–227` and `SPEC_FULL.md:240–245`.
-/

namespace TestSkeleton

open Java

/-! ### Logs that listen -/

namespace MessageLog

variable {σ : Type} {adapter : Adapter σ}

/-- A log as a listener that takes down every message. -/
def listener : Listener σ MessageLog := fun msg _ log => (record msg : RunM MessageLog Unit).run log

/-- A log takes down messages that can be sent. -/
theorem carry_tell {msgs : List Message} (h : ∀ msg ∈ msgs, Messaging.Sendable msg)
    (s : Scene σ MessageLog) :
    (Scene.handlers adapter listener).carry (msgs.map .tell) s =
      (.ok (), { s with memory := s.memory ++ msgs, past := s.past ++ msgs.map .tell }) := by
  induction msgs generalizing s with
  | nil => simp [Handlers.carry]
  | cons msg msgs ih =>
    have hlistener : listener msg s.store s.memory = (.ok (), s.memory ++ [msg]) := by
      have hnames : checkNames sentNames msg.arguments = .ok () := h msg List.mem_cons_self
      rw [listener, record, hnames]
      rfl
    rw [List.map_cons, Handlers.carry, Scene.act_tell, hlistener]
    dsimp only
    rw [ih fun msg' hmsg' => h msg' (List.mem_cons_of_mem msg hmsg')]
    simp

/-- A log takes down the messages before some calls, and those after them unless a call fails. -/
theorem memory_of_carry {opening closing : List Message} {calls : List Call}
    {s s' : Scene σ MessageLog} {result : Except Failure Unit}
    (hopening : ∀ msg ∈ opening, Messaging.Sendable msg)
    (hclosing : ∀ msg ∈ closing, Messaging.Sendable msg)
    (h : (Scene.handlers adapter listener).carry
      (opening.map .tell ++ (calls.map .make ++ closing.map .tell)) s = (result, s')) :
    (result = .ok () → s'.memory = s.memory ++ opening ++ closing) ∧
      ∀ e, result = .error e → s'.memory = s.memory ++ opening := by
  rw [Handlers.carry_append, carry_tell hopening] at h
  dsimp only at h
  rw [Handlers.carry_append] at h
  have hcalls := Scene.memory_carry_make adapter listener calls
    { s with memory := s.memory ++ opening, past := s.past ++ opening.map .tell }
  generalize (Scene.handlers adapter listener).carry (calls.map .make) _ = carried at hcalls h
  rcases carried with ⟨e | ⟨⟩, mid⟩
  · obtain ⟨rfl, rfl⟩ := Prod.mk.inj h
    exact ⟨nofun, fun _ _ => hcalls⟩
  · dsimp only at hcalls h
    rw [carry_tell hclosing] at h
    obtain ⟨rfl, rfl⟩ := Prod.mk.inj h
    exact ⟨fun _ => congrArg (· ++ closing) hcalls, nofun⟩

end MessageLog

/-! ### Accounts -/

/-- An account of a run: its settings, and for each class that it has found the tests and the
file. -/
structure Account where
  settings : Settings
  /-- The classes of each descriptor path. -/
  loads : List (List ClassInfo)
  /-- The tests of each class. -/
  tests : List (List String)
  /-- The file of each class. -/
  files : List Path
  length_loads : loads.length = settings.descriptors.length
  length_tests : tests.length = loads.flatten.length
  length_files : files.length = loads.flatten.length

namespace Account

/-- All classes, in the order of the descriptor paths. -/
def classes (a : Account) : List ClassInfo := a.loads.flatten

/-- The messages before the first call: one for each descriptor path; then, if there are no classes,
that there is nothing to do, and else the start and one message for each class. -/
def opening (a : Account) : List Message :=
  Draft.loadReports a.settings a.loads ++
    if a.classes.isEmpty then [.nothingFound]
    else .started a.classes.length a.settings.outputPath ::
      a.classes.zipWith (fun c tests => .assembled c.simpleName tests.length) a.tests

/-- The messages after the last call: one for each file and the end, if there are classes. -/
def closing (a : Account) : List Message :=
  if a.classes.isEmpty then [] else a.files.map .written ++ [.completed a.classes.length]

/-- All messages of a run that returns. -/
def messages (a : Account) : List Message := a.opening ++ a.closing

/-- The first messages of an account are true of a run: it has these settings, the descriptor paths
that are told of hold these classes, and the classes that are told of have these tests. -/
structure TrueUpTo (a : Account) (disk : Disk) (root : Path) (o : Overrides) (n : Nat) : Prop where
  settings : 0 < n → Settings.loadWith disk root o = .ok a.settings
  loads : ((a.settings.descriptors.take n).mapM fun entry =>
    Manifest.load disk (root.joinText entry)) = .ok (a.loads.take n)
  tests : ∀ k, a.loads.length + 1 + k ≤ n → ∃ r, Generation.runner root a.settings id = .ok r ∧
    (a.classes.take k).mapM (r.tests a.settings.variants) = .ok (a.tests.take k)

/-- Before the first call no success is told. -/
theorem level_of_mem_opening {a : Account} : ∀ msg ∈ a.opening, msg.level ≠ .success := by
  intro msg hmsg
  rw [opening, List.mem_append, Draft.loadReports] at hmsg
  rcases hmsg with hmsg | hmsg
  · rw [← List.map_uncurry_zip_eq_zipWith] at hmsg
    obtain ⟨⟨entry, classes⟩, -, rfl⟩ := List.mem_map.mp hmsg
    simp [Message.loaded]
  · split at hmsg
    · rw [List.mem_singleton.mp hmsg]
      simp [Message.nothingFound]
    · rcases List.mem_cons.mp hmsg with rfl | hmsg
      · simp [Message.started]
      · rw [← List.map_uncurry_zip_eq_zipWith] at hmsg
        obtain ⟨⟨c, tests⟩, -, rfl⟩ := List.mem_map.mp hmsg
        simp [Message.assembled]

/-! ### The account of a run -/

variable (disk : Disk) (root : Path) (s : Settings) (r : Runner)

/-- The classes at a descriptor path, none where it cannot be loaded. -/
def loadOrNone (entry : String) : List ClassInfo :=
  (Manifest.load disk (root.joinText entry)).toOption.getD []

/-- The tests of a class, empty ones where they cannot be collected. -/
def testsOrEmpty (c : ClassInfo) : List String :=
  (r.tests s.variants c).toOption.getD (List.replicate (c.publicMethods.length * s.variants) "")

/-- The account of a run with settings and a runner, as if nothing failed. -/
def ofRun : Account where
  settings := s
  loads := s.descriptors.map (loadOrNone disk root)
  tests := (s.descriptors.map (loadOrNone disk root)).flatten.map (testsOrEmpty s r)
  files := (s.descriptors.map (loadOrNone disk root)).flatten.map r.placement.target
  length_loads := List.length_map ..
  length_tests := List.length_map ..
  length_files := List.length_map ..

variable {disk root s r} {o : Overrides}

/-- An entry that is loaded counts with its classes. -/
theorem loadOrNone_of_ok (entry : String) (classes : List ClassInfo)
    (h : Manifest.load disk (root.joinText entry) = .ok classes) :
    loadOrNone disk root entry = classes := by
  rw [loadOrNone, h]
  rfl

/-- A class whose tests are assembled counts with them. -/
theorem testsOrEmpty_of_ok (c : ClassInfo) (ts : List String) (h : r.tests s.variants c = .ok ts) :
    testsOrEmpty s r c = ts := by
  rw [testsOrEmpty, h]
  rfl

/-- A class counts with one test for each public method and variant, assembled or not. -/
theorem length_testsOrEmpty (c : ClassInfo) :
    (testsOrEmpty s r c).length = c.publicMethods.length * s.variants := by
  rw [testsOrEmpty]
  cases h : r.tests s.variants c with
  | error e => simp [Except.toOption]
  | ok ts => simpa [Except.toOption] using Runner.length_of_tests h

/-- The messages of an account before the first call are those of a draft. -/
theorem opening_ofRun (h : (ofRun disk root s r).classes ≠ []) :
    (ofRun disk root s r).opening = Draft.openingOf s (ofRun disk root s r).loads := by
  have htests : ∀ classes : List ClassInfo,
      classes.zipWith (fun c tests => Message.assembled c.simpleName tests.length)
        (classes.map (testsOrEmpty s r)) = Draft.bodyReports classes s.variants := by
    intro classes
    rw [List.zipWith_map_right, List.zipWith_self, Draft.bodyReports]
    refine List.map_congr_left fun c _ => ?_
    rw [length_testsOrEmpty, Int.natCast_mul]
  rw [opening, if_neg (by simpa using h), Draft.openingOf]
  exact congrArg _ (congrArg _ (htests _))

private theorem prefix_zipWith {α β γ : Type} (f : α → β → γ) (xs : List α) {ys ys' : List β}
    (h : ys <+: ys') : xs.zipWith f ys <+: xs.zipWith f ys' := by
  induction xs generalizing ys ys' with
  | nil => exact List.nil_prefix
  | cons x xs ih =>
    cases ys with
    | nil => exact List.nil_prefix
    | cons y ys =>
      obtain ⟨zs, rfl⟩ := h
      exact List.cons_prefix_cons.mpr ⟨rfl, ih (List.prefix_append ys zs)⟩

/-- What is told of the descriptor paths before the first failure is the beginning of the
account. -/
theorem loadReports_resultsBefore :
    Draft.loadReports s (Script.resultsBefore
        (fun entry => Manifest.load disk (root.joinText entry)) s.descriptors) <+:
      (ofRun disk root s r).opening := by
  rw [Script.resultsBefore_eq_take loadOrNone_of_ok]
  exact (prefix_zipWith _ _ (List.take_prefix _ _)).trans (List.prefix_append _ _)

/-- An account is true as far as the descriptor paths can be loaded and the classes have tests. -/
theorem trueUpTo_ofRun (hs : Settings.loadWith disk root o = .ok s)
    (hr : Generation.runner root s id = .ok r) {n : Nat}
    (hloads : ∀ entry ∈ s.descriptors.take n,
      ∃ classes, Manifest.load disk (root.joinText entry) = .ok classes)
    (htests : ∀ k, s.descriptors.length + 1 + k ≤ n →
      ∀ c ∈ (ofRun disk root s r).classes.take k, ∃ ts, r.tests s.variants c = .ok ts) :
    (ofRun disk root s r).TrueUpTo disk root o n where
  settings _ := hs
  loads := by
    change ((s.descriptors.take n).mapM fun entry => Manifest.load disk (root.joinText entry)) =
      .ok ((s.descriptors.map (loadOrNone disk root)).take n)
    rw [← List.map_take]
    refine Outcome.mapM_eq_ok_map fun entry hentry => ?_
    obtain ⟨classes, hclasses⟩ := hloads entry hentry
    rw [hclasses, loadOrNone_of_ok entry classes hclasses]
  tests k hk := by
    refine ⟨r, hr, ?_⟩
    change ((ofRun disk root s r).classes.take k).mapM (r.tests s.variants) =
      .ok (((ofRun disk root s r).classes.map (testsOrEmpty s r)).take k)
    rw [← List.map_take]
    rw [length_loads] at hk
    refine Outcome.mapM_eq_ok_map fun c hc => ?_
    obtain ⟨ts, hts⟩ := htests k hk c hc
    rw [hts, testsOrEmpty_of_ok c ts hts]

/-! ### The scripts of runs -/

/-- A run that cannot load tells a beginning of an account. -/
theorem script_of_load_error {e : Failure} (h : Generation.load disk root o id = .error e) :
    ∃ (a : Account) (told : List Message), told <+: a.opening ∧
      Generation.script disk root o id = ⟨told.map .tell, .error e⟩ ∧
      a.TrueUpTo disk root o told.length := by
  rcases Generation.script_of_load_error h with hscript | ⟨s, r, hs, hr, hscript⟩
  · -- nothing is told, so any account will do
    let nothing : Account :=
      ⟨{ Settings.standard with descriptors := [] }, [], [], [], rfl, rfl, rfl⟩
    refine ⟨nothing, [], List.nil_prefix, hscript, nofun, rfl, ?_⟩
    intro k hk
    exact absurd hk (by simp [nothing])
  · refine ⟨ofRun disk root s r, _, loadReports_resultsBefore, hscript, ?_⟩
    have hle := Script.length_resultsBefore_le
      (fun entry => Manifest.load disk (root.joinText entry)) s.descriptors
    have hlength : ∀ loads : List (List ClassInfo), loads.length ≤ s.descriptors.length →
        (Draft.loadReports s loads).length = loads.length := by
      intro loads hloads
      rw [Draft.loadReports, List.length_zipWith, Nat.min_eq_right hloads]
    rw [hlength _ hle]
    refine trueUpTo_ofRun hs hr Script.exists_ok_of_mem_take ?_
    intro k hk
    omega

/-- Where all descriptor paths can be loaded, their classes are those of the account. -/
theorem loads_ofRun {l : Generation.Loaded} (h : Generation.load disk root o id = .ok l) :
    (ofRun disk root l.settings l.runner).loads = l.loads := by
  obtain ⟨-, -, hl⟩ := Generation.load_eq_ok.mp h
  exact Outcome.map_eq_of_mapM hl loadOrNone_of_ok

/-- Where all descriptor paths can be loaded, an account is true as far as the classes have
tests. -/
theorem trueUpTo_of_load {l : Generation.Loaded} (h : Generation.load disk root o id = .ok l)
    {n : Nat} (htests : ∀ k, l.settings.descriptors.length + 1 + k ≤ n →
      ∀ c ∈ l.loads.flatten.take k, ∃ ts, l.runner.tests l.settings.variants c = .ok ts) :
    (ofRun disk root l.settings l.runner).TrueUpTo disk root o n := by
  obtain ⟨hs, hr, hl⟩ := Generation.load_eq_ok.mp h
  refine trueUpTo_ofRun hs hr ?_ ?_
  · intro entry hentry
    exact Outcome.exists_ok_of_mem hl entry (List.mem_of_mem_take hentry)
  · rwa [classes, loads_ofRun h]

/-- A run that gets no batch for its classes tells a beginning of an account. -/
theorem script_of_batch_error {l : Generation.Loaded} {e : Failure}
    (h : Generation.load disk root o id = .ok l) (hne : l.loads.flatten ≠ [])
    (hbatch : l.runner.checkedBatch l.loads.flatten l.settings.variants = .error e) :
    ∃ (a : Account) (told : List Message), told <+: a.opening ∧
      Generation.script disk root o id = ⟨told.map .tell, .error e⟩ ∧
      a.TrueUpTo disk root o told.length := by
  have hrunner := Script.runner_of_error hbatch
  have hbodies : ∀ c ∈ l.loads.flatten.take
      (Script.resultsBefore (l.runner.body · l.settings.variants) l.loads.flatten).length,
      ∃ body, l.runner.body c l.settings.variants = .ok body := Script.exists_ok_of_mem_take
  generalize (Script.resultsBefore _ l.loads.flatten).length = n at hrunner hbodies
  refine ⟨ofRun disk root l.settings l.runner, Draft.loadReports l.settings l.loads ++
    .started l.loads.flatten.length l.settings.outputPath ::
      (Draft.bodyReports l.loads.flatten l.settings.variants).take n, ?_, ?_, ?_⟩
  · rw [opening_ofRun (by rwa [classes, loads_ofRun h]), loads_ofRun h, Draft.openingOf]
    exact (List.prefix_append_right_inj _).mpr
      (List.cons_prefix_cons.mpr ⟨rfl, List.take_prefix _ _⟩)
  · rw [Generation.script_of_load h, if_neg (by simpa using hne), Script.announce_eq, Script.ok_bind,
      hrunner, Script.error_bind, Script.after_mk, Script.after_mk, List.map_append, List.map_cons]
    rfl
  · refine trueUpTo_of_load h ?_
    intro k hk c hc
    have hkn : k ≤ n := by
      have hloads : (Draft.loadReports l.settings l.loads).length = l.settings.descriptors.length := by
        rw [Draft.loadReports, List.length_zipWith, ← loads_ofRun h, length_loads]
        exact Nat.min_self _
      rw [List.length_append, hloads, List.length_cons, List.length_take] at hk
      omega
    obtain ⟨body, hbody⟩ := hbodies c (List.take_subset_take_left _ hkn hc)
    exact Runner.exists_tests_of_body hbody

/-- A run that finds no classes tells its account and makes no call. -/
theorem script_of_empty {l : Generation.Loaded} (h : Generation.load disk root o id = .ok l)
    (hnone : l.loads.flatten = []) :
    ∃ (a : Account) (calls : List Call), Generation.script disk root o id =
        ⟨a.opening.map .tell ++ (calls.map .make ++ a.closing.map .tell), .ok a.files⟩ ∧
      ∀ n, a.TrueUpTo disk root o n := by
  have hclasses : (ofRun disk root l.settings l.runner).classes = [] := by
    rw [classes, loads_ofRun h, hnone]
  have hfiles : (ofRun disk root l.settings l.runner).files = [] := by
    rw [← List.length_eq_zero_iff, length_files, ← classes, hclasses, List.length_nil]
  have hclosing : (ofRun disk root l.settings l.runner).closing = [] := by
    rw [closing, hclasses]
    rfl
  refine ⟨ofRun disk root l.settings l.runner, [], ?_, fun n => trueUpTo_of_load h ?_⟩
  · rw [Generation.script_of_load h, hnone, hclosing, hfiles, opening, hclasses, loads_ofRun h,
      List.map_nil, List.map_nil, List.append_nil, List.append_nil, List.map_append]
    rfl
  · intro k _ c hc
    rw [hnone, List.take_nil] at hc
    cases hc

/-- A run that gets its batch tells the opening of its account, makes the calls and tells the
rest. -/
theorem script_of_batch {l : Generation.Loaded} {b : Batch}
    (h : Generation.load disk root o id = .ok l) (hne : l.loads.flatten ≠ [])
    (hbatch : l.runner.checkedBatch l.loads.flatten l.settings.variants = .ok b) :
    ∃ (a : Account) (calls : List Call), Generation.script disk root o id =
        ⟨a.opening.map .tell ++ (calls.map .make ++ a.closing.map .tell), .ok a.files⟩ ∧
      ∀ n, a.TrueUpTo disk root o n := by
  obtain ⟨bodies, hbodies, hb, -⟩ := Runner.checkedBatch_eq_ok.mp hbatch
  have hclasses : (ofRun disk root l.settings l.runner).classes = l.loads.flatten := by
    rw [classes, loads_ofRun h]
  have htargets : b.targets = (ofRun disk root l.settings l.runner).files := by
    obtain ⟨-, hr, -⟩ := Generation.load_eq_ok.mp h
    rw [hb, Generation.runner_revise hr]
    exact congrArg (List.map l.runner.placement.target) hclasses.symm
  have hlength : b.targets.length = l.loads.flatten.length := by
    rw [htargets, length_files, loads_ofRun h]
  refine ⟨ofRun disk root l.settings l.runner, b.calls l.runner.terminator, ?_, ?_⟩
  · rw [Generation.script_of_load h, if_neg (by simpa using hne), Script.announce_eq,
      Script.ok_bind, Script.runner_of_ok hbatch, Script.ok_bind, Script.announce_eq,
      Script.ok_bind, Script.pure_eq, opening_ofRun (by rwa [hclasses]), loads_ofRun h, closing,
      hclasses, if_neg (by simpa using hne), ← htargets, hlength]
    simp only [Script.after_mk, Draft.openingOf, List.map_append, List.map_cons, List.map_nil,
      List.append_assoc, List.cons_append, List.nil_append, List.append_nil]
  · intro n
    refine trueUpTo_of_load h ?_
    intro k _ c hc
    obtain ⟨body, hbody⟩ := Outcome.exists_ok_of_mem hbodies c (List.mem_of_mem_take hc)
    exact Runner.exists_tests_of_body hbody

/-- A run either tells a beginning of an account and fails without a call, or tells an account with
all its calls between the opening and the closing. -/
theorem exists_script_eq (disk : Disk) (root : Path) (o : Overrides) :
    (∃ (a : Account) (told : List Message) (e : Failure), told <+: a.opening ∧
      Generation.script disk root o id = ⟨told.map .tell, .error e⟩ ∧
      a.TrueUpTo disk root o told.length) ∨
    ∃ (a : Account) (calls : List Call), Generation.script disk root o id =
        ⟨a.opening.map .tell ++ (calls.map .make ++ a.closing.map .tell), .ok a.files⟩ ∧
      ∀ n, a.TrueUpTo disk root o n := by
  cases hl : Generation.load disk root o id with
  | error e =>
    obtain ⟨a, told, htold⟩ := script_of_load_error hl
    exact .inl ⟨a, told, e, htold⟩
  | ok l =>
    by_cases hne : l.loads.flatten = []
    · exact .inr (script_of_empty hl hne)
    · cases hbatch : l.runner.checkedBatch l.loads.flatten l.settings.variants with
      | error e =>
        obtain ⟨a, told, htold⟩ := script_of_batch_error hl hne hbatch
        exact .inl ⟨a, told, e, htold⟩
      | ok b => exact .inr (script_of_batch hl hne hbatch)

end Account

/-! ### The logs of runs -/

namespace Generation

/-- A log that listens to a run among any adapter takes down its account from the start, and what it
takes down is true of the run. It has the whole account, with the files that are returned, where the
run returns. Where the run fails, in the batch of calls too, no success has been told. -/
theorem run_tells_account {σ : Type} (adapter : Adapter σ) (disk : Disk) (root : Path)
    (o : Overrides) (store : σ) :
    ∃ result final, ∃ a : Account,
      (run disk root o (Scene.handlers adapter MessageLog.listener)).run { store, memory := [] } =
        (result, final) ∧
      a.TrueUpTo disk root o final.memory.length ∧
      (∀ written, result = .ok written → final.memory = a.messages ∧ a.files = written) ∧
      ∀ e, result = .error e →
        final.memory <+: a.messages ∧ ∀ msg ∈ final.memory, msg.level ≠ .success := by
  have hsendable : ∀ msg, .tell msg ∈ (script disk root o id).acts → Messaging.Sendable msg :=
    fun _ hmsg => Messaging.sendable_of_isMessage (isMessage_of_mem_script hmsg)
  have hfailed : ∀ {a : Account} {told : List Message}, told <+: a.opening →
      told <+: a.messages ∧ ∀ msg ∈ told, msg.level ≠ .success := by
    intro a told htold
    refine ⟨htold.trans (List.prefix_append _ _), fun msg hmsg => ?_⟩
    exact Account.level_of_mem_opening msg (htold.subset hmsg)
  rw [run_eq_carry]
  rcases Account.exists_script_eq disk root o with
    ⟨a, told, e, htold, hscript, htrue⟩ | ⟨a, calls, hscript, htrue⟩
  · rw [hscript] at hsendable ⊢
    rw [MessageLog.carry_tell fun msg hmsg => hsendable msg (List.mem_map_of_mem hmsg)]
    exact ⟨.error e, _, a, rfl, htrue, nofun, fun _ _ => hfailed htold⟩
  · rw [hscript] at hsendable ⊢
    rcases hcarry : (Scene.handlers adapter MessageLog.listener).carry
      (a.opening.map .tell ++ (calls.map .make ++ a.closing.map .tell)) { store, memory := [] }
      with ⟨result, final⟩
    obtain ⟨hreturned, hbroken⟩ := MessageLog.memory_of_carry
      (fun msg hmsg => hsendable msg (by simp [hmsg]))
      (fun msg hmsg => hsendable msg (by simp [hmsg])) hcarry
    simp only [hcarry]
    cases result with
    | error e =>
      refine ⟨.error e, final, a, rfl, htrue _, nofun, fun _ _ => ?_⟩
      rw [hbroken e rfl]
      exact hfailed (List.prefix_refl _)
    | ok u =>
      refine ⟨.ok a.files, final, a, rfl, htrue _, fun written hwritten => ?_, nofun⟩
      cases hwritten
      exact ⟨hreturned rfl, rfl⟩

end Generation
end TestSkeleton
