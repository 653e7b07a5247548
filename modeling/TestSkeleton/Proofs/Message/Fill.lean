import Mathlib.Data.List.TakeWhile
import TestSkeleton.Message.Template
import TestSkeleton.Proofs.Outcome

/-!
# Filling in plain templates

A field is plain if it names an argument and does nothing more with it than convert it to text. A
template of plain fields is filled in or rejected; it meets no fault, whatever the arguments are.
-/

namespace TestSkeleton.Template

/-- Whether a field takes no step into its argument and gives no style to it. -/
def Field.Plain (f : Field) : Prop := (∀ c ∈ f.name, c ≠ '.' ∧ c ≠ '[') ∧ f.style = []

/-- Whether all fields of a template are plain. -/
def Plain (template : String) : Prop := ∀ f, .field f ∈ pieces template.toList → f.Plain

variable {outside : Outside} {arguments : List (String × Argument)} {fault : Fault}

/-- A name without steps means an argument, or it is rejected. -/
theorem lookUp_of_noStep (arguments : List (String × Argument)) {name : List Char}
    (h : ∀ c ∈ name, c ≠ '.' ∧ c ≠ '[') :
    (∃ a, lookUp arguments name = .ok (.argument a)) ∨
      lookUp arguments name = .error .rejected := by
  have hrest : (name.dropWhile fun c => !(c == '.' || c == '[')) = [] := by
    rw [List.dropWhile_eq_nil_iff]
    intro c hc
    simp [h c hc]
  rw [lookUp, hrest, steps]
  split
  · exact .inr rfl
  · split
    · exact .inr rfl
    · exact .inl ⟨_, rfl⟩

/-- A conversion succeeds or is rejected. -/
theorem convert_ne_fault (a : Argument) (conversion : Option Char) :
    convert a conversion ≠ .error (.fault fault) := by
  intro h
  unfold convert at h
  split at h
  · cases h
  · split at h
    · split at h <;> cases h
    · cases h

/-- The text of an argument, which is rejected if it has none. -/
def shown (a : Argument) : Except Problem String :=
  if a.hasText then .ok a.display else .error .rejected

/-- Showing an argument meets no fault. -/
theorem shown_ne_fault (a : Argument) : shown a ≠ .error (.fault fault) := by
  intro h
  unfold shown at h
  split at h <;> cases h

/-- A plain field shows an argument, converted as it says, or it is rejected. Neither what is
outside nor the styles of other fields matter. -/
theorem fillPiece_of_plain (arguments : List (String × Argument)) {f : Field} (h : f.Plain) :
    (∃ a, ∀ outside inner, fillPiece outside arguments inner (.field f) =
        convert a f.conversion >>= shown) ∨
      ∀ outside inner, fillPiece outside arguments inner (.field f) = .error .rejected := by
  obtain ⟨hname, hstyle⟩ := h
  rcases lookUp_of_noStep arguments hname with ⟨a, hfound⟩ | hfound
  · refine .inl ⟨a, fun outside inner => ?_⟩
    rw [fillPiece, Field.writer, hfound, hstyle]
    dsimp only [bind, Except.bind]
    cases convert a f.conversion <;> rfl
  · refine .inr fun outside inner => ?_
    rw [fillPiece, Field.writer, hfound]
    rfl

/-- A plain field meets no fault. -/
theorem fillPiece_ne_fault {f : Field} (h : f.Plain) (inner : List Char → Except Problem String) :
    fillPiece outside arguments inner (.field f) ≠ .error (.fault fault) := by
  intro hfault
  rcases fillPiece_of_plain arguments h with ⟨a, hpiece⟩ | hpiece
  · rw [hpiece] at hfault
    rcases Outcome.bind_eq_error.mp hfault with hconverted | ⟨converted, -, hshown⟩
    · exact convert_ne_fault a f.conversion hconverted
    · exact shown_ne_fault converted hshown
  · rw [hpiece] at hfault
    cases hfault

/-- A template of plain fields is filled in or rejected, whatever its arguments are. -/
theorem fill_ne_fault {template : String} (h : Plain template) :
    fill template arguments outside ≠ .error (.fault fault) := by
  intro hfault
  rw [fill, fillDepth, Outcome.map_eq_error] at hfault
  obtain ⟨before, piece, after, hpieces, -, hpiece⟩ := Outcome.mapM_eq_error.mp hfault
  cases piece with
  | char c => cases hpiece
  | malformed => cases hpiece
  | field f => exact fillPiece_ne_fault (h f (by simp [hpieces])) _ hpiece

/-- What a template of plain fields is filled in with does not depend on what is outside. -/
theorem fill_of_plain {template : String} (h : Plain template) (outside : Outside) :
    fill template arguments outside = fill template arguments := by
  rw [fill, fill, fillDepth, fillDepth]
  refine congrArg (Except.map String.join) (Outcome.mapM_congr fun piece hpiece => ?_)
  cases piece with
  | char c => rfl
  | malformed => rfl
  | field f =>
    rcases fillPiece_of_plain arguments (h f hpiece) with ⟨a, hshown⟩ | hrejected
    · rw [hshown, hshown]
    · rw [hrejected, hrejected]

end TestSkeleton.Template
