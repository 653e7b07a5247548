import TestSkeleton.Proofs.Run.Draft
import TestSkeleton.Proofs.Run.Scene

/-!
# Nothing is written before everything is validated

The phases of a run before its first call, each with its failure: settings with their overrides,
framework, manifests, bodies, sizes of the batch. The main statement is about the acts of a whole
run among any adapter and any listener.

Specification: `SPEC_FULL.md:53` and `SPEC_FULL.md:74`.
-/

namespace TestSkeleton.Generation

open Java

/-- The failures of a run in the phases before its first call. -/
inductive FailsEarly (disk : Disk) (root : Path) (o : Overrides) (revise : Batch → Batch)
    (e : Failure) : Prop where
  | settings (h : Settings.loadWith disk root o = .error e)
  | framework (s : Settings) (hs : Settings.loadWith disk root o = .ok s)
      (h : runner root s revise = .error e)
  | manifest (s : Settings) (r : Runner) (before after : List String) (entry : String)
      (hs : Settings.loadWith disk root o = .ok s) (hr : runner root s revise = .ok r)
      (split : s.descriptors = before ++ entry :: after)
      (loaded : ∀ x ∈ before, ∃ classes, Manifest.load disk (root.joinText x) = .ok classes)
      (h : Manifest.load disk (root.joinText entry) = .error e)
  | body (l : Loaded) (before after : List ClassInfo) (c : ClassInfo)
      (hl : load disk root o revise = .ok l) (split : l.loads.flatten = before ++ c :: after)
      (assembled : ∀ x ∈ before, ∃ body, l.runner.body x l.settings.variants = .ok body)
      (h : l.runner.body c l.settings.variants = .error e)
  | sizes (l : Loaded) (bodies : List String)
      (hl : load disk root o revise = .ok l) (nonempty : l.loads.flatten ≠ [])
      (assembled : l.loads.flatten.mapM (l.runner.body · l.settings.variants) = .ok bodies)
      (h : (l.runner.revise
        { bodies, targets := l.loads.flatten.map l.runner.placement.target }).check = .error e)

/-- A run that has loaded its manifests and has found no classes there. -/
def FindsNothing (disk : Disk) (root : Path) (o : Overrides) (revise : Batch → Batch) : Prop :=
  ∃ l, load disk root o revise = .ok l ∧ l.loads.flatten = []

/-- What is known of a draft: every phase before the first call has been passed. -/
structure Validated (disk : Disk) (root : Path) (o : Overrides) (revise : Batch → Batch)
    (d : Draft) : Prop where
  settings : Settings.loadWith disk root o = .ok d.settings
  manifests : (d.settings.descriptors.mapM fun entry => Manifest.load disk (root.joinText entry)) =
    .ok d.loads
  assembled : ∃ r bodies, runner root d.settings revise = .ok r ∧
    d.classes.mapM (r.body · d.settings.variants) = .ok bodies ∧
      d.batch = r.revise { bodies, targets := d.classes.map r.placement.target }
  nonempty : d.classes ≠ []
  sizes : d.batch.check = .ok ()

variable {disk : Disk} {root : Path} {o : Overrides} {revise : Batch → Batch}

private theorem load_eq_error {e : Failure} :
    load disk root o revise = .error e ↔
      Settings.loadWith disk root o = .error e ∨
        ∃ s, Settings.loadWith disk root o = .ok s ∧
          (runner root s revise = .error e ∨
            ∃ r, runner root s revise = .ok r ∧
              (s.descriptors.mapM fun entry => Manifest.load disk (root.joinText entry)) =
                .error e) := by
  rw [load, Outcome.bind_eq_error]
  refine or_congr_right (exists_congr fun s => and_congr_right fun _ => ?_)
  rw [Outcome.bind_eq_error]
  refine or_congr_right (exists_congr fun r => and_congr_right fun _ => ?_)
  rw [Outcome.bind_eq_error]
  constructor
  · rintro (h | ⟨loads, -, h⟩)
    · exact h
    · cases h
  · exact .inl

/-- A run has no draft where one of the early failures meets it. -/
theorem draft_eq_error {e : Failure} :
    draft disk root o revise = .error e ↔ FailsEarly disk root o revise e := by
  constructor
  · intro h
    cases hl : load disk root o revise with
    | error e' =>
      obtain rfl : e' = e := by rwa [draft_of_load_error hl, Except.error.injEq] at h
      rcases load_eq_error.mp hl with hs | ⟨s, hs, hr | ⟨r, hr, hm⟩⟩
      · exact .settings hs
      · exact .framework s hs hr
      · obtain ⟨before, entry, after, split, loaded, he⟩ := Outcome.mapM_eq_error.mp hm
        exact .manifest s r before after entry hs hr split loaded he
    | ok l =>
      rw [draft_of_load hl] at h
      split at h
      · cases h
      · next hne =>
        rcases Runner.checkedBatch_eq_error.mp (Outcome.map_eq_error.mp h) with
          hb | ⟨bodies, hb, hc⟩
        · obtain ⟨before, c, after, split, assembled, he⟩ := Outcome.mapM_eq_error.mp hb
          exact .body l before after c hl split assembled he
        · exact .sizes l bodies hl (fun h => hne (List.isEmpty_iff.mpr h)) hb hc
  · intro h
    cases h with
    | settings h => exact draft_of_load_error (load_eq_error.mpr (.inl h))
    | framework s hs h =>
      exact draft_of_load_error (load_eq_error.mpr (.inr ⟨s, hs, .inl h⟩))
    | manifest s r before after entry hs hr split loaded h =>
      have hm := Outcome.mapM_eq_error.mpr ⟨before, entry, after, split, loaded, h⟩
      exact draft_of_load_error (load_eq_error.mpr (.inr ⟨s, hs, .inr ⟨r, hr, hm⟩⟩))
    | body l before after c hl split assembled h =>
      have hb := Outcome.mapM_eq_error.mpr ⟨before, c, after, split, assembled, h⟩
      have hne : ¬ l.loads.flatten.isEmpty := by simp [split]
      rw [draft_of_load hl, if_neg hne]
      exact Outcome.map_eq_error.mpr (Runner.checkedBatch_eq_error.mpr (.inl hb))
    | sizes l bodies hl nonempty assembled h =>
      rw [draft_of_load hl, if_neg fun he => nonempty (List.isEmpty_iff.mp he)]
      exact Outcome.map_eq_error.mpr
        (Runner.checkedBatch_eq_error.mpr (.inr ⟨bodies, assembled, h⟩))

/-- A run has no draft and no failure where there are no classes. -/
theorem draft_eq_none :
    draft disk root o revise = .ok none ↔ FindsNothing disk root o revise := by
  constructor
  · intro h
    cases hl : load disk root o revise with
    | error e => rw [draft_of_load_error hl] at h; cases h
    | ok l =>
      rw [draft_of_load hl] at h
      split at h
      · next he => exact ⟨l, hl, List.isEmpty_iff.mp he⟩
      · obtain ⟨b, -, hb⟩ := Outcome.map_eq_ok.mp h
        cases hb
  · rintro ⟨l, hl, he⟩
    rw [draft_of_load hl, if_pos (List.isEmpty_iff.mpr he)]

/-- A draft has passed every phase before the first call. -/
theorem validated_of_draft {d : Draft} (h : draft disk root o revise = .ok (some d)) :
    Validated disk root o revise d := by
  cases hl : load disk root o revise with
  | error e => rw [draft_of_load_error hl] at h; cases h
  | ok l =>
    rw [draft_of_load hl] at h
    split at h
    · cases h
    · next hne =>
      obtain ⟨b, hc, hb⟩ := Outcome.map_eq_ok.mp h
      cases hb
      obtain ⟨hs, hr, hloads⟩ := load_eq_ok.mp hl
      obtain ⟨bodies, hbodies, hbatch, hcheck⟩ := Runner.checkedBatch_eq_ok.mp hc
      exact {
        settings := hs
        manifests := hloads
        assembled := ⟨l.runner, bodies, hr, hbodies, hbatch⟩
        nonempty := fun he => hne (List.isEmpty_iff.mpr he)
        sizes := hcheck }

/-! ### The acts of a run -/

variable {σ τ : Type}

private theorem not_make_of_tells {msgs : List Message} {done : List Act}
    (h : done <+: msgs.map .tell) (c : Call) : .make c ∉ done := by
  intro hc
  obtain ⟨msg, -, hmsg⟩ := List.mem_map.mp (h.subset hc)
  cases hmsg

private theorem tells_before_make {msgs : List Message} {rest before after : List Act} {c : Call}
    (h : before ++ .make c :: after <+: msgs.map .tell ++ rest) : msgs.map .tell <+: before := by
  have hbefore : before ++ [.make c] <+: msgs.map .tell ++ rest :=
    .trans ⟨after, by rw [List.append_assoc, List.singleton_append]⟩ h
  have hmake : .make c ∈ before ++ [Act.make c] := by simp
  rcases List.prefix_or_prefix_of_prefix hbefore (List.prefix_append _ _) with hp | hp
  · exact absurd hmake (not_make_of_tells hp c)
  · rcases List.prefix_concat_iff.mp hp with heq | hp
    · rw [← heq] at hmake
      exact absurd hmake (not_make_of_tells (List.prefix_refl _) c)
    · exact hp

private theorem opening_before_make {before after : List Act} {c : Call}
    (h : before ++ .make c :: after <+: (script disk root o revise).acts) :
    ∃ d, draft disk root o revise = .ok (some d) ∧ d.opening.map .tell <+: before := by
  cases hd : draft disk root o revise with
  | error e =>
    obtain ⟨settings, loads, n, hs⟩ := script_of_error hd
    rw [hs] at h
    exact absurd (by simp) (not_make_of_tells h c)
  | ok found =>
    cases found with
    | none =>
      obtain ⟨settings, loads, -, -, -, hs⟩ := script_of_none hd
      rw [hs] at h
      exact absurd (by simp) (not_make_of_tells h c)
    | some d =>
      rw [script_of_some hd, Draft.acts, List.append_assoc] at h
      exact ⟨d, rfl, tells_before_make h⟩

variable {adapter : Adapter σ} {listener : Listener σ τ} {start final : Scene σ τ}
  {result : Except Failure (List Path)}

private theorem past_run
    (hrun : (run disk root o (Scene.handlers adapter listener) revise).run start =
      (result, final)) :
    ∃ done, done <+: (script disk root o revise).acts ∧ final.past = start.past ++ done := by
  have hfinal : _ = final := congrArg Prod.snd hrun
  rw [snd_run] at hfinal
  rw [← hfinal]
  exact Scene.past_carry adapter listener _ start

private theorem run_of_tells {msgs : List Message} {outcome : Except Failure (List Path)}
    (h : script disk root o revise = ⟨msgs.map .tell, outcome⟩)
    (hrun : (run disk root o (Scene.handlers adapter listener) revise).run start =
      (result, final)) :
    final.store = start.store ∧ ((∃ e, result = .error e) ∨ result = outcome) ∧
      (listener.Quiet → result = outcome) := by
  have hstore := Scene.store_carry_tell adapter listener msgs start
  have hquiet (hq : listener.Quiet) := Scene.carry_tell_of_quiet adapter hq msgs start
  rw [run_eq_carry, h] at hrun
  rcases hc : (Scene.handlers adapter listener).carry (msgs.map .tell) start with ⟨e | ⟨⟩, left⟩
  · rw [hc] at hrun hstore hquiet
    obtain ⟨rfl, rfl⟩ := Prod.mk.inj hrun
    exact ⟨hstore, .inl ⟨e, rfl⟩, fun hq => by cases hquiet hq⟩
  · rw [hc] at hrun hstore
    obtain ⟨rfl, rfl⟩ := Prod.mk.inj hrun
    exact ⟨hstore, .inr rfl, fun _ => rfl⟩

/-- Among any adapter and any listener, the first call of a run comes after every phase of
validation and after the message for every body. A run that fails before or that finds nothing makes
no call and leaves the store as it is. -/
theorem calls_follow_validation (disk : Disk) (root : Path) (o : Overrides)
    (revise : Batch → Batch) (adapter : Adapter σ) (listener : Listener σ τ)
    (start : Scene σ τ) :
    ∃ result final done,
      (run disk root o (Scene.handlers adapter listener) revise).run start = (result, final) ∧
      final.past = start.past ++ done ∧
      (∀ e, FailsEarly disk root o revise e →
        (∀ c, .make c ∉ done) ∧ final.store = start.store ∧ (∃ e', result = .error e') ∧
          (listener.Quiet → result = .error e)) ∧
      (FindsNothing disk root o revise →
        (∀ c, .make c ∉ done) ∧ final.store = start.store ∧ (listener.Quiet → result = .ok [])) ∧
      (∀ before c after, done = before ++ .make c :: after →
        ∃ d, Validated disk root o revise d ∧ d.opening.map .tell <+: before) := by
  rcases hrun : (run disk root o (Scene.handlers adapter listener) revise).run start with
    ⟨result, final⟩
  obtain ⟨done, hdone, hpast⟩ := past_run hrun
  refine ⟨result, final, done, rfl, hpast, ?_, ?_, ?_⟩
  · intro e he
    obtain ⟨settings, loads, n, hs⟩ := script_of_error (draft_eq_error.mpr he)
    obtain ⟨hstore, hresult, hquiet⟩ := run_of_tells hs hrun
    rw [hs] at hdone
    refine ⟨not_make_of_tells hdone, hstore, ?_, hquiet⟩
    rcases hresult with hfailed | hfailed
    · exact hfailed
    · exact ⟨e, hfailed⟩
  · intro hn
    obtain ⟨settings, loads, -, -, -, hs⟩ := script_of_none (draft_eq_none.mpr hn)
    obtain ⟨hstore, -, hquiet⟩ := run_of_tells hs hrun
    rw [hs] at hdone
    exact ⟨not_make_of_tells hdone, hstore, hquiet⟩
  · rintro before c after rfl
    obtain ⟨d, hd, hopening⟩ := opening_before_make hdone
    exact ⟨d, validated_of_draft hd, hopening⟩

end TestSkeleton.Generation
