import Mathlib.Data.List.Forall2
import TestSkeleton.Fault

/-!
# Outcomes

How a computation that may fail came to its result: the steps of a sequence and of a traversal, one
by one. Laws of runs and readers are derived from these instead of from the code of `Except`.
-/

namespace TestSkeleton.Outcome

variable {ε α β : Type}

/-- A sequence succeeds when both of its steps do. -/
theorem bind_eq_ok {x : Except ε α} {f : α → Except ε β} {b : β} :
    (x >>= f) = .ok b ↔ ∃ a, x = .ok a ∧ f a = .ok b := by
  cases x with
  | error e => simp [bind, Except.bind]
  | ok a => simp [bind, Except.bind]

/-- A sequence fails with the failure of its first step, or with that of the second one. -/
theorem bind_eq_error {x : Except ε α} {f : α → Except ε β} {e : ε} :
    (x >>= f) = .error e ↔ x = .error e ∨ ∃ a, x = .ok a ∧ f a = .error e := by
  cases x with
  | error e' => simp [bind, Except.bind]
  | ok a => simp [bind, Except.bind]

/-- A computation that fails at once fails. -/
theorem bind_error_of_error {x : Except ε α} {f : α → Except ε β} {e : ε} (h : x = .error e) :
    (x >>= f) = .error e := bind_eq_error.mpr (.inl h)

/-- A computation fails as what follows its result does. -/
theorem bind_error_of_ok {x : Except ε α} {f : α → Except ε β} {a : α} {e : ε} (hx : x = .ok a)
    (h : f a = .error e) : (x >>= f) = .error e := bind_eq_error.mpr (.inr ⟨a, hx, h⟩)

/-- A sequence of which the second step cannot fail maps the result of the first. -/
theorem bind_ok_eq_map (x : Except ε α) (f : α → β) : (x >>= fun a => .ok (f a)) = x.map f := by
  cases x <;> rfl

/-- A mapped result comes from a result. -/
theorem map_eq_ok {x : Except ε α} {f : α → β} {b : β} :
    x.map f = .ok b ↔ ∃ a, x = .ok a ∧ f a = b := by
  cases x with
  | error e => simp [Except.map]
  | ok a => simp [Except.map]

/-- Mapping the result does not decide whether there is one. -/
theorem exists_map_eq_ok {x : Except ε α} {f : α → β} :
    (∃ b, x.map f = .ok b) ↔ ∃ a, x = .ok a := by
  cases x <;> simp [Except.map]

/-- A mapped failure is a failure of what is mapped. -/
theorem map_eq_error {x : Except ε α} {f : α → β} {e : ε} :
    x.map f = .error e ↔ x = .error e := by
  cases x with
  | error e' => simp [Except.map]
  | ok a => simp [Except.map]

/-- A mapped failure comes from a failure. -/
theorem mapError_eq_error {ε' : Type} {x : Except ε α} {f : ε → ε'} {e : ε'} :
    x.mapError f = .error e ↔ ∃ e', x = .error e' ∧ f e' = e := by
  constructor
  · intro h
    cases x with
    | error e' =>
      cases h
      exact ⟨e', rfl, rfl⟩
    | ok a => cases h
  · rintro ⟨e', rfl, rfl⟩
    rfl

/-- Where only the failure is mapped the result stays. -/
theorem mapError_eq_ok {ε' : Type} {x : Except ε α} {f : ε → ε'} {a : α} :
    x.mapError f = .ok a ↔ x = .ok a := by
  cases x with
  | error e => constructor <;> intro h <;> cases h
  | ok a' => constructor <;> intro h <;> cases h <;> rfl

/-- A traversal succeeds when its first step and the rest do. -/
theorem mapM_cons_eq_ok {g : α → Except ε β} {x : α} {xs : List α} {ys : List β} :
    (x :: xs).mapM g = .ok ys ↔ ∃ y zs, g x = .ok y ∧ xs.mapM g = .ok zs ∧ ys = y :: zs := by
  rw [List.mapM_cons, bind_eq_ok]
  constructor
  · rintro ⟨y, hy, h⟩
    obtain ⟨zs, hzs, h⟩ := bind_eq_ok.mp h
    cases h
    exact ⟨y, zs, hy, hzs, rfl⟩
  · rintro ⟨y, zs, hy, hzs, rfl⟩
    exact ⟨y, hy, bind_eq_ok.mpr ⟨zs, hzs, rfl⟩⟩

/-- A traversal is the same with steps that agree on the list. -/
theorem mapM_congr {g g' : α → Except ε β} {xs : List α} (h : ∀ x ∈ xs, g x = g' x) :
    xs.mapM g = xs.mapM g' := by
  induction xs with
  | nil => rfl
  | cons x xs ih =>
    rw [List.mapM_cons, List.mapM_cons, h x List.mem_cons_self,
      ih fun y hy => h y (List.mem_cons_of_mem x hy)]

/-- A traversal of two lists is one of the first and one of the second. -/
theorem mapM_append_eq_ok {g : α → Except ε β} {xs ys : List α} {zs : List β} :
    (xs ++ ys).mapM g = .ok zs ↔
      ∃ us vs, xs.mapM g = .ok us ∧ ys.mapM g = .ok vs ∧ zs = us ++ vs := by
  rw [List.mapM_append, bind_eq_ok]
  constructor
  · rintro ⟨us, hus, h⟩
    obtain ⟨vs, hvs, h⟩ := bind_eq_ok.mp h
    cases h
    exact ⟨us, vs, hus, hvs, rfl⟩
  · rintro ⟨us, vs, hus, hvs, rfl⟩
    exact ⟨us, hus, bind_eq_ok.mpr ⟨vs, hvs, rfl⟩⟩

/-- A traversal fails at the first item that fails. -/
theorem mapM_eq_error {g : α → Except ε β} {xs : List α} {e : ε} :
    xs.mapM g = .error e ↔
      ∃ before x after, xs = before ++ x :: after ∧ (∀ y ∈ before, ∃ z, g y = .ok z) ∧
        g x = .error e := by
  constructor
  · intro h
    induction xs with
    | nil => cases h
    | cons x xs ih =>
      rw [List.mapM_cons] at h
      rcases bind_eq_error.mp h with hx | ⟨y, hy, h⟩
      · exact ⟨[], x, xs, rfl, by simp, hx⟩
      · rcases bind_eq_error.mp h with hxs | ⟨ys, -, h⟩
        · obtain ⟨before, x', after, rfl, hb, hx'⟩ := ih hxs
          refine ⟨x :: before, x', after, rfl, ?_, hx'⟩
          intro z hz
          rcases List.mem_cons.mp hz with rfl | hz
          · exact ⟨y, hy⟩
          · exact hb z hz
        · cases h
  · rintro ⟨before, x, after, rfl, hb, hx⟩
    induction before with
    | nil => rw [List.nil_append, List.mapM_cons, hx]; rfl
    | cons z before ih =>
      obtain ⟨w, hw⟩ := hb z (by simp)
      rw [List.cons_append, List.mapM_cons, hw]
      exact bind_error_of_ok rfl (bind_error_of_error (ih fun y hy => hb y (by simp [hy])))

/-- Something holds of an item, and all items before it have results. -/
def FirstWith (g : α → Except ε β) (P : α → Prop) (xs : List α) : Prop :=
  ∃ before x after, xs = before ++ x :: after ∧ (∀ y ∈ before, ∃ z, g y = .ok z) ∧ P x

/-- A traversal fails where its step does, told by what the step fails for. -/
theorem mapM_eq_error_iff {g : α → Except ε β} {P : α → Prop} {e : ε}
    (h : ∀ x, g x = .error e ↔ P x) (xs : List α) : xs.mapM g = .error e ↔ FirstWith g P xs := by
  simp only [mapM_eq_error, FirstWith, h]

/-- A traversal has the results of another one where each item has them. -/
theorem mapM_eq_ok_of_forall {g g' : α → Except ε β} {xs : List α} {ys : List β}
    (h : xs.mapM g = .ok ys) (hitems : ∀ x ∈ xs, ∀ y, g x = .ok y → g' x = .ok y) :
    xs.mapM g' = .ok ys := by
  induction xs generalizing ys with
  | nil => exact h
  | cons x xs ih =>
    obtain ⟨y, zs, hy, hzs, rfl⟩ := mapM_cons_eq_ok.mp h
    refine mapM_cons_eq_ok.mpr ⟨y, zs, hitems x List.mem_cons_self y hy, ?_, rfl⟩
    exact ih hzs fun x' hx' => hitems x' (List.mem_cons_of_mem x hx')

/-- A traversal has the results of a function that has them for each item. -/
theorem mapM_eq_ok_map {g : α → Except ε β} {f : α → β} {xs : List α}
    (h : ∀ x ∈ xs, g x = .ok (f x)) : xs.mapM g = .ok (xs.map f) := by
  induction xs with
  | nil => rfl
  | cons x xs ih =>
    refine mapM_cons_eq_ok.mpr ⟨f x, xs.map f, h x List.mem_cons_self, ?_, rfl⟩
    exact ih fun x' hx' => h x' (List.mem_cons_of_mem x hx')

/-- The results of a traversal are those of any function that has them. -/
theorem map_eq_of_mapM {g : α → Except ε β} {f : α → β} {xs : List α} {ys : List β}
    (h : xs.mapM g = .ok ys) (hf : ∀ x y, g x = .ok y → f x = y) : xs.map f = ys := by
  induction xs generalizing ys with
  | nil =>
    cases h
    rfl
  | cons x xs ih =>
    obtain ⟨y, zs, hy, hzs, rfl⟩ := mapM_cons_eq_ok.mp h
    rw [List.map_cons, hf x y hy, ih hzs]

/-- A traversal succeeds with the results of its items, in their order. -/
theorem mapM_eq_ok {g : α → Except ε β} {xs : List α} {ys : List β} :
    xs.mapM g = .ok ys ↔ List.Forall₂ (fun x y => g x = .ok y) xs ys := by
  induction xs generalizing ys with
  | nil =>
    rw [List.forall₂_nil_left_iff, List.mapM_nil]
    exact ⟨fun h => (Except.ok.inj h).symm, fun h => h ▸ rfl⟩
  | cons x xs ih =>
    rw [mapM_cons_eq_ok, List.forall₂_cons_left_iff]
    simp only [ih, exists_and_left]

/-- A traversal gives one result for each item. -/
theorem length_of_mapM {g : α → Except ε β} {xs : List α} {ys : List β}
    (h : xs.mapM g = .ok ys) : ys.length = xs.length := by
  induction xs generalizing ys with
  | nil => cases h; rfl
  | cons x xs ih =>
    obtain ⟨y, zs, -, hzs, rfl⟩ := mapM_cons_eq_ok.mp h
    rw [List.length_cons, List.length_cons, ih hzs]

/-- A traversal succeeds where every step does. -/
theorem mapM_ok_of_forall {g : α → Except ε β} {xs : List α}
    (h : ∀ x ∈ xs, ∃ y, g x = .ok y) : ∃ ys, xs.mapM g = .ok ys := by
  induction xs with
  | nil => exact ⟨[], rfl⟩
  | cons x xs ih =>
    obtain ⟨y, hy⟩ := h x (by simp)
    obtain ⟨ys, hys⟩ := ih fun x' hx' => h x' (by simp [hx'])
    exact ⟨y :: ys, mapM_cons_eq_ok.mpr ⟨y, ys, hy, hys, rfl⟩⟩

/-- Where a traversal succeeds, each of its steps does. -/
theorem exists_ok_of_mem {g : α → Except ε β} {xs : List α} {ys : List β}
    (h : xs.mapM g = .ok ys) : ∀ x ∈ xs, ∃ y, g x = .ok y := by
  induction xs generalizing ys with
  | nil => nofun
  | cons x xs ih =>
    obtain ⟨y, zs, hy, hzs, rfl⟩ := mapM_cons_eq_ok.mp h
    intro x' hx'
    rcases List.mem_cons.mp hx' with rfl | hx'
    · exact ⟨y, hy⟩
    · exact ih hzs x' hx'

/-- A traversal succeeds exactly where each of its steps does. -/
theorem exists_mapM_eq_ok {g : α → Except ε β} {xs : List α} :
    (∃ ys, xs.mapM g = .ok ys) ↔ ∀ x ∈ xs, ∃ y, g x = .ok y :=
  ⟨fun ⟨_, h⟩ => exists_ok_of_mem h, mapM_ok_of_forall⟩

end TestSkeleton.Outcome
