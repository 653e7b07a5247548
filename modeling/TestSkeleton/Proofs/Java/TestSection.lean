import TestSkeleton.Java.TestClass
import TestSkeleton.Proofs.Outcome

/-!
# The section of tests

Which fragments a test class has, and which test stands at which position of its section of tests:
the variants of the first public method in order, then those of the next one. Methods that are not
public leave no trace there, so the class is the same without them, unless the set-up method is
written in another way.

Specification: `SPEC_FULL.md:44–46` and `SPEC_FULL.md:80–81`.
-/

namespace TestSkeleton.Java

/-- Lists of methods that come from each other by putting in and taking out methods that are not
public, at any place. -/
inductive SamePublic (methods : List Method) : List Method → Prop
  | refl : SamePublic methods methods
  | insert {before after : List Method} {m : Method} (h : SamePublic methods (before ++ after))
      (hm : m.isPublic = false) : SamePublic methods (before ++ m :: after)
  | delete {before after : List Method} {m : Method} (h : SamePublic methods (before ++ m :: after))
      (hm : m.isPublic = false) : SamePublic methods (before ++ after)

private theorem filter_isPublic_append_cons {before after : List Method} {m : Method}
    (hm : m.isPublic = false) : (before ++ m :: after).filter Method.isPublic =
      (before ++ after).filter Method.isPublic := by
  rw [List.filter_append, List.filter_cons_of_neg (by simp [hm]), List.filter_append]

/-- Such lists have the same public methods in the same order. -/
theorem SamePublic.filter_eq {methods methods' : List Method} (h : SamePublic methods methods') :
    methods'.filter Method.isPublic = methods.filter Method.isPublic := by
  induction h with
  | refl => rfl
  | insert _ hm ih => rw [filter_isPublic_append_cons hm, ih]
  | delete _ hm ih => rw [← filter_isPublic_append_cons hm, ih]

namespace Outline

variable {o : Outline} {c : ClassInfo} {field : Name} {k : Nat}

/-- Each public method has one test in each variant. -/
theorem length_tests (o : Outline) (c : ClassInfo) (field : Name) (k : Nat) :
    (o.tests c field k).length = c.publicMethods.length * k := by
  simp [tests, List.length_flatMap, List.map_const']

private theorem getElem?_flatMap_range {α β : Type} (f : α → Nat → β) (hk : 0 < k) (xs : List α)
    (j : Nat) : (xs.flatMap fun x => (List.range k).map (f x))[j]? =
      (xs[j / k]?).map fun x => f x (j % k) := by
  induction xs generalizing j with
  | nil => simp
  | cons x xs ih =>
    have hlength : ((List.range k).map (f x)).length = k := by simp
    rw [List.flatMap_cons]
    by_cases hj : j < k
    · rw [List.getElem?_append_left (by omega), Nat.div_eq_of_lt hj, Nat.mod_eq_of_lt hj]
      simp [hj]
    · -- the position is in the rows that follow, one row further on
      obtain ⟨i, rfl⟩ := Nat.exists_eq_add_of_le (Nat.le_of_not_lt hj)
      rw [List.getElem?_append_right (by omega), hlength, Nat.add_sub_cancel_left, ih,
        Nat.add_div_left i hk, Nat.add_mod_left, List.getElem?_cons_succ]

/-- Within rows of one length every position is that of an item. -/
theorem exists_getElem?_flatMap_range {α β : Type} (f : α → Nat → β) {xs : List α} {j : Nat}
    (hj : j < xs.length * k) : ∃ x, xs[j / k]? = some x ∧
      (xs.flatMap fun x => (List.range k).map (f x))[j]? = some (f x (j % k)) := by
  have hk : 0 < k := Nat.pos_of_mul_pos_left (Nat.zero_lt_of_lt hj)
  have hrow : j / k < xs.length := (Nat.div_lt_iff_lt_mul hk).mpr hj
  refine ⟨xs[j / k], List.getElem?_eq_getElem hrow, ?_⟩
  rw [getElem?_flatMap_range f hk, List.getElem?_eq_getElem hrow, Option.map_some]

/-- The test at a position belongs to the method and the variant that division by the number of
variants gives. -/
theorem getElem?_tests (o : Outline) (c : ClassInfo) (field : Name) {k j : Nat}
    (hj : j < c.publicMethods.length * k) :
    ∃ m, c.publicMethods[j / k]? = some m ∧
      (o.tests c field k)[j]? = some (o.test m field (j % k)) :=
  exists_getElem?_flatMap_range (fun m v => o.test m field v) hj

/-- The body of a class whose simple name is a name. -/
theorem body_of_name {name : Name} (h : Name.ofValue c.simpleName = .ok name) :
    o.body c k = .ok (o.bodyWith c name.decapitalize k) := by
  rw [body, ClassInfo.fieldName, h]
  rfl

/-- Only the set-up method can tell classes apart that differ in methods that are not public. -/
theorem bodyWith_eq_iff {methods : List Method} (h : SamePublic c.methods methods) :
    o.bodyWith { c with methods } field k = o.bodyWith c field k ↔
      o.setUp { c with methods } field = o.setUp c field := by
  have htests : o.tests { c with methods } field k = o.tests c field k := by
    rw [tests, tests, ClassInfo.publicMethods, ClassInfo.publicMethods, h.filter_eq]
  have hheader : header o.imports o.lineEnd { c with methods } = header o.imports o.lineEnd c := rfl
  have hdeclaration : o.declaration { c with methods } = o.declaration c := rfl
  have hfield : o.field { c with methods } field = o.field c field := rfl
  rw [bodyWith, bodyWith, htests, hheader, hdeclaration, hfield]
  simp

/-- The fragments of a test class. Its section of tests has one test for each public method and
variant, method by method and the variants of a method in order. Methods that are not public change
nothing but what the set-up method makes of them; that of a framework makes nothing of them. -/
theorem body_layout (o : Outline) (c : ClassInfo) (k : Nat) {name : Name}
    (hname : Name.ofValue c.simpleName = .ok name) :
    ∃ tests : List String,
      o.body c k = .ok ⟨[header o.imports o.lineEnd c, o.declaration c,
        o.field c name.decapitalize, o.lineEnd, o.setUp c name.decapitalize, o.lineEnd,
        o.lineEnd.intercalate tests, closeBrace ++ o.lineEnd]⟩ ∧
      tests.length = c.publicMethods.length * k ∧
      (∀ j < c.publicMethods.length * k, ∃ m, c.publicMethods[j / k]? = some m ∧
        tests[j]? = some (o.test m name.decapitalize (j % k))) ∧
      ∀ methods, SamePublic c.methods methods →
        (o.body { c with methods } k = o.body c k ↔
          o.setUp { c with methods } name.decapitalize = o.setUp c name.decapitalize) ∧
        ∀ framework lineEnd, (ofFramework framework lineEnd).body { c with methods } k =
          (ofFramework framework lineEnd).body c k := by
  refine ⟨o.tests c name.decapitalize k, body_of_name hname, length_tests o c _ k,
    fun j hj => getElem?_tests o c _ hj, fun methods hmethods => ?_⟩
  have hname' : Name.ofValue ({ c with methods } : ClassInfo).simpleName = .ok name := hname
  have hbody (o : Outline) : o.body { c with methods } k = o.body c k ↔
      o.setUp { c with methods } name.decapitalize = o.setUp c name.decapitalize := by
    rw [body_of_name hname', body_of_name hname, Except.ok.injEq]
    exact bodyWith_eq_iff hmethods
  refine ⟨hbody o, fun framework lineEnd => (hbody _).mpr ?_⟩
  rfl

/-- A class with a method that is not public between two that are. -/
def widget : ClassInfo where
  canonicalName := "a.Widget"
  methods := [{ name := "run" }, { name := "hidden", visibility := .isPrivate }, { name := "stop" }]

/-- Of three variants for each method, the fifth test is the second one of the method behind the
private one, and the class is the same without the private one. -/
theorem body_layout_around_private :
    Name.ofValue widget.simpleName = .ok (.text "Widget") ∧
      SamePublic widget.methods [{ name := "run" }, { name := "stop" }] ∧
      ∃ tests : List String,
        (ofFramework .junit5 "\n").body widget 3 =
          .ok ⟨[header ["org.junit.jupiter.api.Test", "org.junit.jupiter.api.BeforeEach"] "\n"
              widget,
            "public class WidgetTest \x7b\n", "\tprivate Widget widget;\n", "\n",
            (ofFramework .junit5 "\n").setUp widget (.text "widget"), "\n",
            "\n".intercalate tests, "\x7d\n"]⟩ ∧
        tests.length = 6 ∧
        tests[4]? = some ((ofFramework .junit5 "\n").test { name := "stop" } (.text "widget") 1) ∧
        (ofFramework .junit5 "\n").body
            { widget with methods := [{ name := "run" }, { name := "stop" }] } 3 =
          (ofFramework .junit5 "\n").body widget 3 := by
  have hname : Name.ofValue widget.simpleName = .ok (.text "Widget") := by decide
  have hpublic : SamePublic widget.methods [{ name := "run" }, { name := "stop" }] :=
    @SamePublic.delete _ [{ name := "run" }] _ _ .refl rfl
  have hfield : Name.decapitalize (.text "Widget") = .text "widget" := by decide
  obtain ⟨tests, hbody, hlength, htests, hmethods⟩ :=
    body_layout (ofFramework .junit5 "\n") widget 3 hname
  rw [hfield] at hbody htests
  obtain ⟨m, hm, htest⟩ := htests 4 (by decide)
  have hstop : widget.publicMethods[4 / 3]? = some { name := "stop" } := by decide
  rw [hstop] at hm
  obtain rfl := Option.some.inj hm
  exact ⟨hname, hpublic, tests, hbody, hlength, htest, (hmethods _ hpublic).2 .junit5 "\n"⟩

end Outline
end TestSkeleton.Java
