import TestSkeleton.Proofs.Disk.Rewritten
import TestSkeleton.Proofs.Java.TargetSegments
import TestSkeleton.Proofs.Manifest.Listing
import TestSkeleton.Proofs.Message.Cache
import TestSkeleton.Proofs.Run.Unchecked
import TestSkeleton.Proofs.Settings.Lookup

/-!
# Running again

A run that is made again finds on its disk what the first one has left. Its settings are the same,
since no target has the name of a project file; its manifests are the same, as long as no target is
among them; so it works out the same draft and writes the same files once more. Its messages are not
refused either, since their templates have been read already. The main statement is about every
messaging environment and every run that has succeeded in it.

Specification: `SPEC_FULL.md:84`.
-/

namespace TestSkeleton

open Java

namespace Messaging

variable {τ : Type} (e : Messaging τ)

/-! ### Messages that are sent again -/

/-- A message that is not refused any more, whatever happens to the disk, and reads no more
tables. -/
def Settled (msg : Message) (catalog : Catalog) : Prop :=
  ∀ disk catalog', catalog.Keeps catalog' →
    e.refusal? msg disk catalog' = none ∧ e.catalogAfter msg disk catalog' = catalog'

/-- A message that is not refused is settled from then on. -/
theorem settled_of_refusal?_eq_none {msg : Message} {disk : Disk} {catalog : Catalog}
    (h : e.refusal? msg disk catalog = none) :
    catalog.Keeps (e.catalogAfter msg disk catalog) ∧
      e.Settled msg (e.catalogAfter msg disk catalog) := by
  cases he : e.renderer with
  | none =>
    simp only [catalogAfter, he]
    exact ⟨.refl catalog, fun _ _ _ => ⟨by simp [refusal?, he], by simp [catalogAfter, he]⟩⟩
  | some render =>
    rcases hlook : e.lookUp disk msg.key catalog with ⟨f | template, after⟩
    · simp [refusal?, he, hlook] at h
    · obtain ⟨hkeeps, hagain⟩ := Catalog.get_again hlook
      simp only [catalogAfter, he, hlook]
      refine ⟨hkeeps, fun disk' catalog' hcatalog' => ?_⟩
      have hlook' : e.lookUp disk' msg.key catalog' = (.ok template, catalog') :=
        hagain template rfl (e.view disk') catalog' hcatalog'
      simp only [refusal?, he, hlook] at h
      refine ⟨?_, by simp only [catalogAfter, he, hlook']⟩
      simp only [refusal?, he, hlook']
      exact h

/-- After acts that have been carried out all of their messages are settled. -/
theorem settled_of_carry {acts : List Act} {s s' : Scene Disk (Heard τ)}
    (hsendable : ∀ msg, .tell msg ∈ acts → Sendable msg)
    (h : e.handlers.carry acts s = (.ok (), s')) :
    s.memory.catalog.Keeps s'.memory.catalog ∧
      ∀ msg, .tell msg ∈ acts → e.Settled msg s'.memory.catalog := by
  induction acts generalizing s with
  | nil =>
    cases h
    exact ⟨.refl _, nofun⟩
  | cons a acts ih =>
    have hrest : ∀ msg, .tell msg ∈ acts → Sendable msg := fun msg hmsg =>
      hsendable msg (List.mem_cons_of_mem a hmsg)
    rw [Handlers.carry] at h
    cases a with
    | tell msg =>
      have hheard := e.listener_eq (hsendable msg List.mem_cons_self) s.store s.memory
      rw [handlers, Scene.act_tell] at h
      cases hrefusal : e.refusal? msg s.store s.memory.catalog with
      | some f =>
        rw [hrefusal] at hheard
        rw [hheard] at h
        cases h
      | none =>
        rw [hrefusal] at hheard
        rw [hheard.1] at h
        obtain ⟨hkeeps, hsettled⟩ := e.settled_of_refusal?_eq_none hrefusal
        rw [← hheard.2] at hkeeps hsettled
        obtain ⟨hkeeps', htold⟩ := ih hrest h
        refine ⟨hkeeps.trans hkeeps', fun msg' hmsg' => ?_⟩
        rcases List.mem_cons.mp hmsg' with heq | hmsg'
        · cases heq
          exact fun disk catalog' hcatalog' => hsettled disk catalog' (hkeeps'.trans hcatalog')
        · exact htold msg' hmsg'
    | make c =>
      rw [handlers, Scene.act_make] at h
      rcases hc : s.store.after c with ⟨f | ⟨⟩, store⟩
      · rw [hc] at h
        cases h
      · rw [hc] at h
        obtain ⟨hkeeps, htold⟩ := ih hrest h
        refine ⟨hkeeps, fun msg hmsg => htold msg ?_⟩
        simpa using hmsg

/-- Settled messages are not refused. -/
theorem firstRefusal_of_settled {acts : List Act} {catalog : Catalog}
    (h : ∀ msg, .tell msg ∈ acts → e.Settled msg catalog) (disk : Disk) :
    e.firstRefusal acts disk catalog = none := by
  induction acts generalizing disk with
  | nil => rfl
  | cons a acts ih =>
    have hrest : ∀ disk, e.firstRefusal acts disk catalog = none :=
      ih fun msg hmsg => h msg (List.mem_cons_of_mem a hmsg)
    cases a with
    | tell msg =>
      obtain ⟨hnone, hsame⟩ := h msg List.mem_cons_self disk catalog (.refl catalog)
      rw [firstRefusal, hnone, hsame]
      exact hrest disk
    | make c =>
      rw [firstRefusal]
      split
      · exact hrest _
      · rfl

end Messaging

namespace Generation

variable {disk left : Disk} {root : Path} {o : Overrides} {settings : Settings} {d : Draft}
  {written : List Path} {files dirs : Place → Prop}

/-! ### Drafts on a changed disk -/

/-- The targets of a draft are those of its classes, placed below the directory of the run. -/
theorem targets_of_draft (h : draft disk root o id = .ok (some d)) :
    d.batch.targets = d.classes.map
      (Placement.target ⟨root.text, d.settings.outputPath, d.settings.fileExtension, "/"⟩) := by
  obtain ⟨r, bodies, hr, -, hbatch⟩ := (validated_of_draft h).assembled
  obtain ⟨f, -, hrunner⟩ := Outcome.bind_eq_ok.mp hr
  cases hrunner
  rw [hbatch]
  rfl

/-- The targets of a draft are below the directory of the run and have a `T` in their names. -/
theorem segments_of_target (h : draft disk root o id = .ok (some d))
    (hext : '/' ∉ d.settings.fileExtension.toList) :
    ∀ t ∈ d.batch.targets, ∃ mid file, t.segments = root.segments ++ mid ++ [file] ∧
      'T' ∈ file.text.toList := by
  intro t ht
  rw [targets_of_draft h] at ht
  obtain ⟨c, -, rfl⟩ := List.mem_map.mp ht
  rw [← Path.segmentsOf_text root]
  obtain ⟨mid, file, hsegments, hfile⟩ := Placement.exists_segments_target
    (l := ⟨root.text, d.settings.outputPath, d.settings.fileExtension, "/"⟩) rfl hext c
  refine ⟨Path.segmentsOf d.settings.outputPath ++ mid, file, ?_, by simp [hfile]⟩
  rw [hsegments]
  simp only [List.append_assoc]

/-- No target has the name of a project file. -/
theorem not_isTarget_projectName (h : draft disk root o id = .ok (some d))
    (hext : '/' ∉ d.settings.fileExtension.toList) (q : Place) :
    ¬ Disk.IsTarget d.batch.targets (projectName :: q) := by
  rintro ⟨t, ht, hplace⟩
  obtain ⟨mid, file, hsegments, hT⟩ := segments_of_target h hext t ht
  have hup : file ≠ .up := by
    rintro rfl
    exact absurd hT (by decide)
  rw [Path.place, hsegments, Place.walk_append, Place.walk, if_neg hup, Place.walk_nil] at hplace
  obtain ⟨rfl, -⟩ := List.cons.inj hplace
  exact absurd hT (by decide)

/-- Where the files of a draft have been written, no segment of the directory of the run is too
long. -/
theorem isTooLong_of_written (h : draft disk root o id = .ok (some d))
    (hext : '/' ∉ d.settings.fileExtension.toList) {terminator : String}
    (hwritten : Disk.adapter.Succeeds disk
      (Batch.callsOf terminator (d.batch.bodies.zip d.batch.targets)) left) :
    ∀ s ∈ root.segments, s.isTooLong = false := by
  have hne : d.batch.bodies.zip d.batch.targets ≠ [] := by
    have hlen := Batch.length_eq_of_check (validated_of_draft h).sizes
    have htargets : d.batch.targets ≠ [] := by
      rw [targets_of_draft h, Ne, List.map_eq_nil_iff]
      exact (validated_of_draft h).nonempty
    rw [← List.length_pos_iff] at htargets ⊢
    rw [List.length_zip]
    omega
  obtain ⟨f, rest, hf⟩ := List.exists_cons_of_ne_nil hne
  have hmem : f ∈ d.batch.bodies.zip d.batch.targets := by rw [hf]; exact List.mem_cons_self
  -- a target that has been written can be followed, and the directory is at its beginning
  obtain ⟨content, hfile⟩ := (Disk.replaceable_of_succeeds hwritten f hmem).file
  obtain ⟨mid, file, hsegments, -⟩ := segments_of_target h hext f.2 (List.of_mem_zip hmem).2
  have hfollow := (Disk.locate_eq_ok.mp (Disk.find?_eq_some.mp hfile).2.2.1).2.2
  intro s hs
  exact Disk.isTooLong_of_follow hfollow s (by simp [hsegments, hs])

/-- A draft is worked out again on a disk that has changed nothing but targets and directories. -/
theorem draft_stays (h : draft disk root o id = .ok (some d))
    (hframe : Disk.Frame disk left (Disk.IsTarget d.batch.targets) dirs)
    (hshort : ∀ s ∈ root.segments, s.isTooLong = false)
    (hext : '/' ∉ d.settings.fileExtension.toList)
    (haway : ∀ t ∈ d.batch.targets, ∀ entry ∈ d.settings.descriptors,
      ¬ (root.joinText entry).place <:+ t.place) :
    draft left root o id = .ok (some d) := by
  cases hl : load disk root o id with
  | error e =>
    rw [draft_of_load_error hl] at h
    cases h
  | ok l =>
    have hsettings : d.settings = l.settings := by
      have hd := (validated_of_draft h).settings
      rw [(load_eq_ok.mp hl).1] at hd
      exact (Except.ok.inj hd).symm
    obtain ⟨hs, hr, hloads⟩ := load_eq_ok.mp hl
    have hs' : Settings.loadWith left root o = .ok l.settings := by
      rw [← hs, Settings.loadWith, Settings.loadWith,
        Settings.load_stays hframe (not_isTarget_projectName h hext) hshort]
    have hloads' : (l.settings.descriptors.mapM fun entry =>
        Manifest.load left (root.joinText entry)) = .ok l.loads := by
      refine Outcome.mapM_eq_ok_of_forall hloads fun entry hentry classes hclasses => ?_
      refine Manifest.load_stays hframe ?_ hclasses
      rintro q hq ⟨t, ht, rfl⟩
      exact haway t ht entry (hsettings ▸ hentry) hq
    have hl' : load left root o id = .ok l := load_eq_ok.mpr ⟨hs', hr, hloads'⟩
    rw [draft_of_load hl', ← draft_of_load hl, h]

/-- Where nobody listens, a run that has succeeded is made again: it returns the same files, leaves
everything as it is and acts as before. -/
theorem silent_again (hrun : (run disk root o Disk.handlers id).run disk = (.ok written, left))
    (hsettings : Settings.loadWith disk root o = .ok settings)
    (hext : '/' ∉ settings.fileExtension.toList)
    (haway : ∀ t ∈ written, ∀ entry ∈ settings.descriptors,
      ¬ (root.joinText entry).place <:+ t.place) :
    script left root o id = script disk root o id ∧
      ∃ left', (run left root o Disk.handlers id).run left = (.ok written, left') ∧
        ∀ q, left'.lookAt q = left.lookAt q := by
  cases hdraft : draft disk root o id with
  | error e =>
    rw [silent_of_error hdraft] at hrun
    cases hrun
  | ok found =>
    cases found with
    | none =>
      -- without classes nothing is written
      have hsame := silent_of_none hdraft
      rw [hrun] at hsame
      cases hsame
      exact ⟨rfl, disk, hrun, fun _ => rfl⟩
    | some d =>
      have hvalid := validated_of_draft hdraft
      obtain rfl : d.settings = settings := by
        rw [hvalid.settings] at hsettings
        exact Except.ok.inj hsettings
      rw [silent_of_some hdraft] at hrun
      obtain ⟨hlen, hcalls, rfl⟩ := Batch.write_eq_ok.mp hrun
      rw [Batch.calls_eq_callsOf] at hcalls
      have hsnd : (d.batch.bodies.zip d.batch.targets).map Prod.snd = d.batch.targets :=
        List.map_snd_zip hlen.ge
      have hframe := Disk.frame_callsOf hcalls
      rw [hsnd] at hframe
      have hshort := isTooLong_of_written hdraft hext hcalls
      have hdraft' := draft_stays hdraft hframe hshort hext haway
      obtain ⟨left', hagain, hlook⟩ := Disk.succeeds_again hcalls
      refine ⟨by rw [script_of_some hdraft, script_of_some hdraft'], left', ?_, hlook⟩
      rw [silent_of_some hdraft']
      exact Batch.write_of_succeeds hlen hagain

end Generation

namespace Messaging

variable {τ : Type} {e : Messaging τ} {start left : Scene Disk (Heard τ)} {root : Path}
  {o : Overrides} {settings : Settings} {written : List Path}

/-- A run that has returned was silent up to its messages, and these are settled then. -/
theorem settled_of_run
    (h : (Generation.run start.store root o e.handlers).run start = (.ok written, left)) :
    (Generation.run start.store root o Disk.handlers).run start.store = (.ok written, left.store) ∧
      ∀ msg, .tell msg ∈ (Generation.script start.store root o id).acts →
        e.Settled msg left.memory.catalog := by
  have heq := e.run_scene_eq root o id start
  rw [h] at heq
  have hsilent : (Generation.run start.store root o Disk.handlers).run start.store =
      (.ok written, left.store) := by
    cases hrefusal : e.firstRefusal (Generation.script start.store root o id).acts start.store
        start.memory.catalog with
    | some refusal =>
      rw [hrefusal] at heq
      cases heq
    | none =>
      rw [hrefusal] at heq
      exact heq.symm
  refine ⟨hsilent, ?_⟩
  rw [Generation.run_eq_carry] at h
  rcases hcarry : e.handlers.carry (Generation.script start.store root o id).acts start with
    ⟨f | ⟨⟩, final⟩
  · rw [hcarry] at h
    cases h
  · rw [hcarry] at h
    obtain ⟨-, rfl⟩ := Prod.mk.inj h
    exact (e.settled_of_carry (fun _ hmsg =>
      sendable_of_isMessage (Generation.isMessage_of_mem_script hmsg)) hcarry).2

/-- A run that has succeeded is made again, with what the first one has left on the disk and in the
catalog of messages: it succeeds, returns the same files, and leaves every file and every directory
as it is. The same holds of a run in any other environment, unless a message is refused there. -/
theorem run_again
    (hrun : (Generation.run start.store root o e.handlers).run start = (.ok written, left))
    (hsettings : Settings.loadWith start.store root o = .ok settings)
    (hext : '/' ∉ settings.fileExtension.toList)
    (haway : ∀ t ∈ written, ∀ entry ∈ settings.descriptors,
      ¬ (root.joinText entry).place <:+ t.place) :
    (∃ left', (Generation.run left.store root o e.handlers).run left = (.ok written, left') ∧
        ∀ q, left'.store.lookAt q = left.store.lookAt q) ∧
      ∀ {τ' : Type} (e' : Messaging τ') (heard' : Heard τ'),
        e'.firstRefusal (Generation.script left.store root o id).acts left.store heard'.catalog =
            none →
          ∃ disk', e'.run left.store root o id heard' = (.ok written, disk') ∧
            ∀ q, disk'.lookAt q = left.store.lookAt q := by
  obtain ⟨hsilent, hsettled⟩ := settled_of_run hrun
  obtain ⟨hscript, disk', hagain, hlook⟩ :=
    Generation.silent_again hsilent hsettings hext haway
  constructor
  · have hrefusal := e.firstRefusal_of_settled hsettled left.store
    have heq := e.run_scene_eq root o id left
    rw [hscript, hrefusal] at heq
    obtain ⟨hresult, hstore⟩ := Prod.mk.inj (heq.trans hagain)
    refine ⟨_, Prod.ext hresult rfl, fun q => ?_⟩
    rw [hstore]
    exact hlook q
  · intro τ' e' heard' hrefusal
    refine ⟨disk', ?_, hlook⟩
    rw [e'.run_eq, hrefusal]
    exact hagain

/-- Two classes of one name in a directory of manifests, with somebody who listens. -/
theorem run_again_two_classes :
    let root : Path := .ofString "/p"
    let target : Path := .ofString "/p/out/a/BTest.java"
    let o : Overrides := { descriptors := some ["d"], outputPath := some "out" }
    let e : Messaging (List String) := { renderer := some fun _ text shown => shown ++ [text] }
    let start : Scene Disk (Heard (List String)) := {
      store := Disk.empty.put (.ofString "/p/d/m.json")
        "\x7b\"classes\": [\x7b\"name\": \"a.B\"\x7d, \x7b\"name\": \"a.B\"\x7d]\x7d".toUTF8
      memory := { catalog := { roots := [] }, shown := [] } }
    ∃ left left',
      (Generation.run start.store root o e.handlers).run start = (.ok [target, target], left) ∧
        (Generation.run left.store root o e.handlers).run left = (.ok [target, target], left') ∧
        ∀ q, left'.store.lookAt q = left.store.lookAt q := by
  intro root target o e start
  have hresult : ((Generation.run start.store root o e.handlers).run start).1 =
      .ok [target, target] := by decide +kernel
  have hsettings : Settings.loadWith start.store root o =
      .ok { Settings.standard with descriptors := ["d"], outputPath := "out" } := by
    decide +kernel
  have hrun := (Prod.ext hresult rfl : (Generation.run start.store root o e.handlers).run start = (_, _))
  obtain ⟨⟨left', hagain, hlook⟩, -⟩ := run_again hrun hsettings (by decide) (by decide +kernel)
  exact ⟨_, left', hrun, hagain, hlook⟩

end Messaging
end TestSkeleton
