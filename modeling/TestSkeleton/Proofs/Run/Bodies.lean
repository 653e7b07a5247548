import TestSkeleton.Proofs.Java.TestSection
import TestSkeleton.Run.Runner

/-!
# Bodies of classes

Which classes have a body: those whose simple name is a name. Nothing else can stand in the way, as
long as the number of variants is not negative.
-/

namespace TestSkeleton.Runner

open Java

private theorem checkVariants_natCast (k : Nat) : checkVariants k = .ok k :=
  if_neg (Int.not_lt.mpr (Int.natCast_nonneg k))

/-- A class has no body where its simple name is no name. -/
theorem body_eq_error {r : Runner} {c : ClassInfo} {k : Nat} {e : Failure} :
    r.body c k = .error e ↔ ∃ f, e = .fault f ∧ Name.ofValue c.simpleName = .error f := by
  rw [body, checkVariants_natCast]
  change (do return (← Failure.ofFault (r.outline.body c k)).text) = _ ↔ _
  rw [Outline.body, ClassInfo.fieldName]
  cases Name.ofValue c.simpleName with
  | error f =>
    constructor
    · rintro ⟨⟩
      exact ⟨f, rfl, rfl⟩
    · rintro ⟨f', rfl, hf⟩
      cases hf
      rfl
  | ok name =>
    constructor
    · intro h
      cases h
    · rintro ⟨f, -, hname⟩
      cases hname

/-- A class has a body where its simple name is a name. -/
theorem exists_body_iff {r : Runner} {c : ClassInfo} {k : Nat} :
    (∃ body, r.body c k = .ok body) ↔ ∃ name, Name.ofValue c.simpleName = .ok name := by
  cases hbody : r.body c k with
  | error e =>
    obtain ⟨f, -, hname⟩ := body_eq_error.mp hbody
    simp [hname]
  | ok body =>
    cases hname : Name.ofValue c.simpleName with
    | error f =>
      rw [body_eq_error.mpr ⟨f, rfl, hname⟩] at hbody
      cases hbody
    | ok name => exact ⟨fun _ => ⟨name, rfl⟩, fun _ => ⟨body, rfl⟩⟩

/-- A class whose simple name is a text has a body for any number of variants. -/
theorem body_of_text (r : Runner) {c : ClassInfo} {s : String} (h : c.simpleName = .text s)
    (k : Nat) : ∃ body, r.body c k = .ok body := by
  rw [exists_body_iff, h]
  exact ⟨.text s, rfl⟩

/-! ### The tests in a body -/

/-- The tests that a runner collects for the body of a class. -/
def tests (r : Runner) (variants : Int) (c : ClassInfo) : Except Failure (List String) := do
  let n ← checkVariants variants
  Failure.ofFault (c.fieldName.map fun field => r.outline.tests c field n)

/-- A class has tests where its field has a name. -/
theorem tests_eq_ok {r : Runner} {c : ClassInfo} {k : Nat} {ts : List String} :
    r.tests k c = .ok ts ↔ ∃ field, c.fieldName = .ok field ∧ r.outline.tests c field k = ts := by
  rw [tests, checkVariants_natCast]
  change Failure.ofFault (c.fieldName.map fun field => r.outline.tests c field k) = .ok ts ↔ _
  rw [Failure.ofFault_eq_ok, Outcome.map_eq_ok]

/-- The body of a class is the one with the tests that are collected for it. -/
theorem body_eq_ok {r : Runner} {c : ClassInfo} {k : Nat} {body : String} :
    r.body c k = .ok body ↔
      ∃ field, c.fieldName = .ok field ∧ (r.outline.bodyWith c field k).text = body := by
  rw [Runner.body, checkVariants_natCast]
  change (Failure.ofFault (c.fieldName.map fun field => r.outline.bodyWith c field k) >>=
    fun b => pure b.text) = .ok body ↔ _
  rw [Outcome.bind_eq_ok]
  constructor
  · rintro ⟨b, hb, htext⟩
    cases htext
    obtain ⟨field, hfield, rfl⟩ := Outcome.map_eq_ok.mp (Failure.ofFault_eq_ok.mp hb)
    exact ⟨field, hfield, rfl⟩
  · rintro ⟨field, hfield, rfl⟩
    have hb : (c.fieldName.map fun field => r.outline.bodyWith c field k) =
        .ok (r.outline.bodyWith c field k) := Outcome.map_eq_ok.mpr ⟨field, hfield, rfl⟩
    exact ⟨_, Failure.ofFault_eq_ok.mpr hb, rfl⟩

/-- Each public method of a class has one test in each variant. -/
theorem length_of_tests {r : Runner} {c : ClassInfo} {k : Nat} {ts : List String}
    (h : r.tests k c = .ok ts) : ts.length = c.publicMethods.length * k := by
  obtain ⟨field, -, rfl⟩ := tests_eq_ok.mp h
  exact Outline.length_tests r.outline c field k

/-- Where a class has a body its tests have been collected. -/
theorem exists_tests_of_body {r : Runner} {c : ClassInfo} {k : Nat} {body : String}
    (h : r.body c k = .ok body) : ∃ ts, r.tests k c = .ok ts := by
  obtain ⟨field, hfield, -⟩ := body_eq_ok.mp h
  exact ⟨_, tests_eq_ok.mpr ⟨field, hfield, rfl⟩⟩

end TestSkeleton.Runner
