import Mathlib.Data.List.Nodup
import TestSkeleton.Java.TestClass
import TestSkeleton.Proofs.Text.Decimal

/-!
# Names of tests

When the tests of a class have names of their own. A name is a stem with the number of a variant
right after it, so two methods share a name where they share a stem, and also where one stem goes on
as the other one followed by a number, once there are ten times as many variants. From a name whose
stem ends in no digit, stem and variant can be read back.

Specification: `SPEC_FULL.md:162–164`.
-/

namespace TestSkeleton.Java

namespace Method

/-- The names of the tests of a method for the first variants. -/
def testNames (m : Method) (variants : Nat) : List String :=
  (List.range variants).map fun v : Nat => m.testName v

/-- What overloads are told apart by: the name and the parameter types without generic arguments. -/
def signature (m : Method) : String × List String :=
  (m.name, m.parameters.map fun p => TypeText.erase p.type)

/-- The name of a test is its stem and the number of the variant. -/
theorem testName_natCast (m : Method) (v : Nat) : m.testName v = m.testStem ++ toString v := rfl

/-- The names of the tests of a method, one for each variant. -/
theorem mem_testNames {m : Method} {variants : Nat} {name : String} :
    name ∈ m.testNames variants ↔ ∃ v < variants, m.testStem ++ toString v = name := by
  simp only [testNames, testName_natCast, List.mem_map, List.mem_range]

/-- The variants of one method never share a name. -/
theorem nodup_testNames (m : Method) (variants : Nat) : (m.testNames variants).Nodup := by
  refine List.Nodup.map_on ?_ List.nodup_range
  intro v _ w _ h
  rcases Text.append_toString_eq h with ⟨-, hvw⟩ | ⟨n, -, hn, -⟩ | ⟨n, -, hn, -⟩
  · exact hvw
  · exact absurd hn.symm (Text.append_toString_ne _ n)
  · exact absurd hn.symm (Text.append_toString_ne _ n)

/-- One method's stem is not the other one's with a number that lets their names meet. -/
def KeepsClear (variants : Nat) (m m' : Method) : Prop :=
  ∀ n, 0 < n → m'.testStem = m.testStem ++ toString n → variants ≤ 10 * n

private theorem keepsClear_refl (variants : Nat) (m : Method) : m.KeepsClear variants m := by
  intro n _ h
  exact absurd h.symm (Text.append_toString_ne _ n)

/-- Where there are variants, two methods have no name in common if their stems differ and keep
clear of each other. -/
theorem disjoint_testNames_iff {m m' : Method} {variants : Nat} (hk : 0 < variants) :
    (m.testNames variants).Disjoint (m'.testNames variants) ↔
      m.testStem ≠ m'.testStem ∧ m.KeepsClear variants m' ∧ m'.KeepsClear variants m := by
  constructor
  · intro h
    refine ⟨fun hstem => ?_, fun n hn hstem => ?_, fun n hn hstem => ?_⟩
    · exact h (mem_testNames.mpr ⟨0, hk, rfl⟩) (mem_testNames.mpr ⟨0, hk, by rw [hstem]⟩)
    · by_contra hle
      refine h (mem_testNames.mpr ⟨10 * n, by omega, rfl⟩) (mem_testNames.mpr ⟨0, hk, ?_⟩)
      rw [hstem, Text.append_toString_ten_mul _ hn]
    · by_contra hle
      refine h (mem_testNames.mpr ⟨0, hk, ?_⟩) (mem_testNames.mpr ⟨10 * n, by omega, rfl⟩)
      rw [hstem, Text.append_toString_ten_mul _ hn]
  · rintro ⟨hstem, hclear, hclear'⟩ name hm hm'
    obtain ⟨v, hv, rfl⟩ := mem_testNames.mp hm
    obtain ⟨w, hw, heq⟩ := mem_testNames.mp hm'
    rcases Text.append_toString_eq heq.symm with ⟨h, -⟩ | ⟨n, hn, h, hle⟩ | ⟨n, hn, h, hle⟩
    · exact hstem h
    · have := hclear n hn h
      omega
    · have := hclear' n hn h
      omega

/-- Methods whose stems end in no digit have a name in common only where they share the stem, and
then for the same variant: stem and variant can be read back from the name. -/
theorem testName_eq_iff {m m' : Method} (hm : Text.endsInDigit m.testStem = false)
    (hm' : Text.endsInDigit m'.testStem = false) {i j : Int} (hi : 0 ≤ i) (hj : 0 ≤ j) :
    m.testName i = m'.testName j ↔ m.testStem = m'.testStem ∧ i = j := by
  obtain ⟨v, rfl⟩ := Int.eq_ofNat_of_zero_le hi
  obtain ⟨w, rfl⟩ := Int.eq_ofNat_of_zero_le hj
  rw [testName_natCast, testName_natCast, Text.append_toString_inj hm hm', Int.natCast_inj]

/-- The methods `addIntArray()` and `add(int[])` share their stem, so they share the name of a
variant, but never of two different ones. -/
theorem testName_eq_iff_of_addArray :
    let m : Method := { name := "addIntArray" }
    let m' : Method := { name := "add", parameters := [⟨"xs", "int[]"⟩] }
    Text.endsInDigit m.testStem = false ∧ Text.endsInDigit m'.testStem = false ∧
      m.testName 10 = m'.testName 10 ∧ m.testName 10 ≠ m'.testName 1 := by
  intro m m'
  have hm : Text.endsInDigit m.testStem = false := by decide +kernel
  have hm' : Text.endsInDigit m'.testStem = false := by decide +kernel
  have hstem : m.testStem = m'.testStem := by decide +kernel
  refine ⟨hm, hm', (testName_eq_iff hm hm' (by decide) (by decide)).mpr ⟨hstem, rfl⟩, fun h => ?_⟩
  exact absurd ((testName_eq_iff hm hm' (by decide) (by decide)).mp h).2 (by decide)

end Method

namespace ClassInfo

/-- The names of all tests of a class, in the order of the tests. -/
def testNames (c : ClassInfo) (variants : Nat) : List String :=
  c.publicMethods.flatMap fun m => m.testNames variants

/-- The tests of a class have names of their own exactly where there are none, or where all stems
differ and none of them is another one with a number of which a tenfold variant is asked for. -/
theorem nodup_testNames_iff (c : ClassInfo) (variants : Nat) :
    (c.testNames variants).Nodup ↔
      variants = 0 ∨
        (c.publicMethods.map Method.testStem).Nodup ∧
          ∀ m ∈ c.publicMethods, ∀ m' ∈ c.publicMethods, ∀ n, 0 < n →
            m'.testStem = m.testStem ++ toString n → variants ≤ 10 * n := by
  rw [testNames, List.nodup_flatMap]
  rcases Nat.eq_zero_or_pos variants with rfl | hk
  · refine iff_of_true ⟨fun m _ => m.nodup_testNames 0, ?_⟩ (.inl rfl)
    exact List.pairwise_of_forall fun m m' => List.disjoint_nil_left _
  · have hpairs : c.publicMethods.Pairwise
        (Function.onFun List.Disjoint fun m => m.testNames variants) ↔
          c.publicMethods.Pairwise (fun m m' => m.testStem ≠ m'.testStem) ∧
            c.publicMethods.Pairwise fun m m' =>
              m.KeepsClear variants m' ∧ m'.KeepsClear variants m := by
      rw [← List.pairwise_and_iff]
      exact List.Pairwise.iff fun m m' => Method.disjoint_testNames_iff hk
    rw [hpairs, List.Nodup, List.pairwise_map]
    constructor
    · rintro ⟨-, hstems, hclear⟩
      refine .inr ⟨hstems, fun m hm m' hm' => ?_⟩
      have hclear := List.Pairwise.forall_of_forall_of_flip
        (fun x _ => ⟨x.keepsClear_refl variants, x.keepsClear_refl variants⟩) hclear
        (hclear.imp And.symm)
      exact (hclear hm hm').1
    · rintro (rfl | ⟨hstems, hclear⟩)
      · exact absurd hk (Nat.lt_irrefl 0)
      · refine ⟨fun m _ => m.nodup_testNames variants, hstems, ?_⟩
        exact List.pairwise_of_forall_mem_list fun m hm m' hm' =>
          ⟨hclear m hm m' hm', hclear m' hm' m hm⟩

/-- Overloads do not always have names of their own: types of one name in two packages give the same
stem. -/
theorem overloads_share_testName :
    ¬ ∀ (c : ClassInfo) (variants : Nat),
      c.publicMethods.Pairwise (fun m m' => m.signature ≠ m'.signature) →
        (c.testNames variants).Nodup := by
  intro h
  let c : ClassInfo := {
    canonicalName := "Calc"
    methods := [
      { name := "add", parameters := [⟨"d", "java.util.Date"⟩] },
      { name := "add", parameters := [⟨"d", "java.sql.Date"⟩] }] }
  have hnodup : (c.testNames 1).Nodup := h c 1 (by decide)
  have hshared : ¬ (c.testNames 1).Nodup := by decide +kernel
  exact hshared hnodup

end ClassInfo
end TestSkeleton.Java
