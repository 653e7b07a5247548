import TestSkeleton.Message.Rendering
import TestSkeleton.Proofs.Message.Fill
import TestSkeleton.Proofs.Run.Script
import TestSkeleton.Proofs.Text.Lacking

/-!
# Substitution

Templates that only copy texts and arguments. They are written from literals, the braces of which
are doubled, and from fields that hold nothing but a name. The main statement gives the text of such
a message: the literals with their own braces and the texts of the arguments, as they are and in
order, or the report on a template that does not fit, and never a mixture of the two.

Specification: `SPEC_FULL.md:221–222`.
-/

namespace TestSkeleton
namespace Template

open Text

/-- The marks that end a name in a field or divide it into steps. -/
def nameMarks : List Char := ['\x7b', '\x7d', ':', '!', '.', '[']

/-- A name that means an argument by itself when it stands in a field. Every identifier is one: it
has none of the marks, and it is neither empty nor made of digits alone. -/
structure FieldName where
  text : String
  lacks_marks : Lacks nameMarks text
  not_number : (text.toList.all fun c => (digitValue? c).isSome) = false

/-- A part of a template. -/
inductive Part where
  | literal (text : String)
  | field (name : FieldName)

namespace Part

/-- A character of a literal as a template spells it. -/
def spelledChar (c : Char) : List Char := if c = '\x7b' ∨ c = '\x7d' then [c, c] else [c]

/-- A part as a template spells it. -/
def spelled : Part → List Char
  | literal text => text.toList.flatMap spelledChar
  | field name => '\x7b' :: name.text.toList ++ ['\x7d']

/-- The template of some parts. -/
def template (parts : List Part) : String := String.ofList (parts.flatMap spelled)

/-- The pieces that a part is read as. -/
def pieces : Part → List Piece
  | literal text => text.toList.map .char
  | field name => [.field { name := name.text.toList }]

/-- The text that a part gives: its own, or that of the argument with its name. -/
def text (arguments : List (String × Argument)) : Part → String
  | literal text => text
  | field name => ((arguments.lookup name.text).map Argument.display).getD ""

end Part

/-! ### Reading templates -/

private theorem takeName_append {cs : List Char} (h : ∀ c ∈ cs, c ∉ nameMarks) (rest : List Char) :
    takeName false (cs ++ '\x7d' :: rest) = (cs, '\x7d' :: rest) := by
  induction cs with
  | nil => rfl
  | cons c cs ih =>
    have hc : c ∉ nameMarks := h c List.mem_cons_self
    have hrest := ih fun c' hc' => h c' (List.mem_cons_of_mem c hc')
    simp only [nameMarks, List.mem_cons, List.not_mem_nil, or_false, not_or] at hc
    rw [List.cons_append, takeName]
    simp [hc, beq_eq_false_iff_ne.mpr hc.2.2.2.2.2, hrest]

/-- A plain name up to its brace is a field without conversion and style. -/
theorem takeField_name (name : FieldName) (rest : List Char) :
    takeField (name.text.toList ++ '\x7d' :: rest) =
      some ({ name := name.text.toList }, rest) := by
  rw [takeField, takeName_append name.lacks_marks]
  rfl

/-- A doubled brace is one character. -/
theorem pieces_doubled {c : Char} (h : c = '\x7b' ∨ c = '\x7d') (rest : List Char) :
    pieces (c :: c :: rest) = .char c :: pieces rest := by
  rcases h with rfl | rfl <;> rw [pieces]

/-- A character that is no brace is itself. -/
theorem pieces_char {c : Char} (h : ¬ (c = '\x7b' ∨ c = '\x7d')) (rest : List Char) :
    pieces (c :: rest) = .char c :: pieces rest := by
  rw [not_or] at h
  rw [pieces.eq_def]
  simp [h]

/-- A plain name in braces is a field. -/
theorem pieces_field (name : FieldName) (rest : List Char) :
    pieces ('\x7b' :: (name.text.toList ++ '\x7d' :: rest)) =
      .field { name := name.text.toList } :: pieces rest := by
  have hfield := takeField_name name rest
  -- a brace at the start of the name would double the one in front of it
  have hopen : ∀ cs, name.text.toList ++ '\x7d' :: rest = '\x7b' :: cs → False := by
    intro cs hcs
    cases hname : name.text.toList with
    | nil =>
      rw [hname] at hcs
      cases hcs
    | cons c cs' =>
      rw [hname] at hcs
      cases hcs
      exact name.lacks_marks '\x7b' (by rw [hname]; exact List.mem_cons_self) (by decide)
  rw [pieces]
  · split
    · next f rest' h =>
      rw [hfield] at h
      cases h
      rfl
    · next h =>
      rw [hfield] at h
      cases h
  · exact hopen

/-- A part in front of more template is read as its pieces. -/
theorem pieces_spelled_append (part : Part) (rest : List Char) :
    Template.pieces (part.spelled ++ rest) = part.pieces ++ Template.pieces rest := by
  cases part with
  | literal text =>
    rw [Part.spelled, Part.pieces]
    induction text.toList with
    | nil => rfl
    | cons c cs ih =>
      rw [List.flatMap_cons, List.map_cons, List.append_assoc, List.cons_append, ← ih,
        Part.spelledChar]
      split
      · next h => exact pieces_doubled h _
      · next h => exact pieces_char h _
  | field name =>
    rw [Part.spelled, List.cons_append, List.cons_append, List.append_assoc]
    exact pieces_field name rest

/-- A template is read as the pieces of its parts. -/
theorem pieces_template (parts : List Part) :
    Template.pieces (Part.template parts).toList = parts.flatMap Part.pieces := by
  rw [Part.template, String.toList_ofList]
  induction parts with
  | nil => rw [List.flatMap_nil, Template.pieces]; rfl
  | cons part parts ih => rw [List.flatMap_cons, List.flatMap_cons, pieces_spelled_append, ih]

/-! ### Filling in -/

variable {outside : Outside} {arguments : List (String × Argument)}
  {inner : List Char → Except Problem String}

/-- An argument has the name, and it has a text. -/
def FieldName.HasText (name : FieldName) (arguments : List (String × Argument)) : Prop :=
  ∃ a, arguments.lookup name.text = some a ∧ a.hasText = true

private theorem FieldName.noStep (name : FieldName) : ∀ c ∈ name.text.toList, c ≠ '.' ∧ c ≠ '[' := by
  intro c hc
  have hmark := name.lacks_marks c hc
  simp only [nameMarks, List.mem_cons, List.not_mem_nil, or_false, not_or] at hmark
  exact hmark.2.2.2.2

/-- The name of a field is looked up as it is, and no step is taken from there. -/
theorem lookUp_name (name : FieldName) :
    lookUp arguments name.text.toList =
      (arguments.lookup name.text).elim (.error .rejected) fun a => .ok (.argument a) := by
  have hstep : ∀ c ∈ name.text.toList, (!(c == '.' || c == '[')) = true := by
    intro c hc
    simp [name.noStep c hc]
  have hempty : name.text.toList.isEmpty = false := by
    cases hname : name.text.toList with
    | nil => simpa [hname] using name.not_number
    | cons c cs => rfl
  rw [lookUp, List.takeWhile_eq_self_iff.mpr hstep, List.dropWhile_eq_nil_iff.mpr hstep, hempty,
    name.not_number, String.ofList_toList]
  cases arguments.lookup name.text with
  | none => rfl
  | some a => rw [steps]; rfl

/-- A field with nothing but a name is filled in with the text of the argument. -/
theorem fillPiece_name_eq_ok {name : FieldName} {text : String} :
    fillPiece outside arguments inner (.field { name := name.text.toList }) = .ok text ↔
      ∃ a, arguments.lookup name.text = some a ∧ a.hasText = true ∧ a.display = text := by
  rw [fillPiece, Field.writer, lookUp_name]
  cases arguments.lookup name.text with
  | none =>
    constructor
    · intro h
      cases h
    · rintro ⟨a, ha, -⟩
      cases ha
  | some a =>
    change shown a = .ok text ↔ _
    constructor
    · intro h
      unfold shown at h
      split at h
      · next htext => exact ⟨a, rfl, htext, Except.ok.inj h⟩
      · cases h
    · rintro ⟨_, ⟨⟩, htext, rfl⟩
      exact if_pos htext

/-- A part is filled in with its text, if it has one. -/
theorem mapM_pieces_part (inner : List Char → Except Problem String) (part : Part)
    (h : ∀ name, part = .field name → name.HasText arguments) :
    ∃ texts, part.pieces.mapM (fillPiece outside arguments inner) = .ok texts ∧
      String.join texts = part.text arguments := by
  cases part with
  | literal text =>
    refine ⟨text.toList.map fun c => String.ofList [c], ?_, ?_⟩
    · rw [Part.pieces, List.mapM_map]
      exact Outcome.mapM_eq_ok_map fun c _ => rfl
    · apply String.toList_inj.mp
      rw [String.toList_join, List.flatMap_map]
      simp [Part.text]
  | field name =>
    obtain ⟨a, ha, htext⟩ := h name rfl
    have hpiece : fillPiece outside arguments inner (.field { name := name.text.toList }) =
        .ok a.display := fillPiece_name_eq_ok.mpr ⟨a, ha, htext, rfl⟩
    refine ⟨[a.display], Outcome.mapM_cons_eq_ok.mpr ⟨_, [], hpiece, rfl, rfl⟩, ?_⟩
    simp [Part.text, ha]

/-- Parts that have texts are filled in with them, in order. -/
theorem mapM_pieces {parts : List Part} (h : ∀ name, .field name ∈ parts → name.HasText arguments) :
    ∃ texts, (parts.flatMap Part.pieces).mapM (fillPiece outside arguments inner) = .ok texts ∧
      String.join texts = String.join (parts.map (Part.text arguments)) := by
  induction parts with
  | nil => exact ⟨[], rfl, rfl⟩
  | cons part parts ih =>
    obtain ⟨first, hfirst, hjoin⟩ := mapM_pieces_part inner part
      fun name hpart => h name (hpart ▸ List.mem_cons_self)
    obtain ⟨rest, hrest, hjoins⟩ := ih fun name hname => h name (List.mem_cons_of_mem part hname)
    refine ⟨first ++ rest, ?_, ?_⟩
    · rw [List.flatMap_cons]
      exact Outcome.mapM_append_eq_ok.mpr ⟨first, rest, hfirst, hrest, rfl⟩
    · rw [String.join_append, hjoin, hjoins, List.map_cons, String.join_cons]

/-- A template of literal texts and plain fields is filled in part by part. -/
theorem fill_template {parts : List Part} (h : ∀ name, .field name ∈ parts → name.HasText arguments) :
    fill (Part.template parts) arguments outside =
      .ok (String.join (parts.map (Part.text arguments))) := by
  obtain ⟨texts, htexts, hjoin⟩ := mapM_pieces h
  rw [fill, fillDepth, pieces_template, htexts, ← hjoin]
  rfl

/-- The template of some parts is plain. -/
theorem plain_template (parts : List Part) : Plain (Part.template parts) := by
  intro f hf
  rw [pieces_template, List.mem_flatMap] at hf
  obtain ⟨part, -, hf⟩ := hf
  cases part with
  | literal text =>
    obtain ⟨c, -, hc⟩ := List.mem_map.mp hf
    cases hc
  | field name =>
    cases List.mem_singleton.mp hf
    exact ⟨name.noStep, rfl⟩

/-- Where a part has no text the whole template is rejected. -/
theorem fill_template_rejected {parts : List Part} {name : FieldName} (hname : .field name ∈ parts)
    (h : ¬ name.HasText arguments) :
    fill (Part.template parts) arguments outside = .error .rejected := by
  cases hfill : fill (Part.template parts) arguments outside with
  | error problem =>
    cases problem with
    | rejected => rfl
    | fault f => exact absurd hfill (fill_ne_fault (plain_template parts))
  | ok text =>
    rw [fill, fillDepth, pieces_template] at hfill
    obtain ⟨texts, htexts, -⟩ := Outcome.map_eq_ok.mp hfill
    obtain ⟨shown, hshown⟩ := Outcome.exists_ok_of_mem htexts (.field { name := name.text.toList })
      (List.mem_flatMap.mpr ⟨.field name, hname, List.mem_singleton_self _⟩)
    obtain ⟨a, ha, htext, -⟩ := fillPiece_name_eq_ok.mp hshown
    exact absurd ⟨a, ha, htext⟩ h

end Template

/-! ### Rendering -/

open Template

/-- Arguments without reserved names are not refused, and a template of literals and names is
rendered in one of two ways. If all its names have texts, the text of the message is made of the
literals and of those texts, as they are and in order. If a name has none, since no argument has
that name or since its number has too many digits, the text only reports the key, whatever the other
arguments are. What an environment lets templates reach beside the arguments does not matter. -/
theorem Key.render_template {σ : Type} {source : String → RunM σ String} {key : Key}
    {parts : List Part} {arguments : List (String × Argument)} {outside : Outside} {s s' : σ}
    (hsource : (source key.path).run s = (.ok (Part.template parts), s'))
    (hnames : ∀ a ∈ arguments, a.1 ∉ sentNames) :
    checkNames renderedNames arguments = .ok () ∧
      ((∀ name, .field name ∈ parts → name.HasText arguments) →
        (key.render source arguments outside).run s =
          (.ok (String.join (parts.map (Part.text arguments))), s')) ∧
      ((∃ name, .field name ∈ parts ∧ ¬ name.HasText arguments) →
        (key.render source arguments outside).run s = (.ok (formattingError key), s')) := by
  have hrun : (key.render source arguments outside).run s =
      (Failure.orThrow (key.fillIn (Part.template parts) arguments outside) :
        RunM σ String).run s' := by
    rw [Key.render, RunM.run_bind, hsource]
  refine ⟨?_, fun h => ?_, fun ⟨name, hname, h⟩ => ?_⟩
  · rw [checkNames, if_neg]
    rw [List.any_eq_true]
    rintro ⟨a, ha, htaken⟩
    exact hnames a ha (List.mem_cons_of_mem _ (List.contains_iff_mem.mp htaken))
  · rw [hrun, Key.fillIn, fill_template h]
    rfl
  · rw [hrun, Key.fillIn, fill_template_rejected hname h]
    rfl

/-- Braces of an argument are copied, also where they spell the field of another one; without that
other one nothing is copied. -/
theorem Key.render_template_with_braces :
    let name : FieldName := ⟨"name", by decide, by decide⟩
    let count : FieldName := ⟨"count", by decide, by decide⟩
    let parts : List Part :=
      [.literal "a\x7bb\x7d", .field name, .literal "\x7d", .field count, .field name]
    let c : Catalog := { roots := [], tables := [("en", [("k", Part.template parts)])] }
    let source := Catalog.get { disk := Disk.empty }
    let shown : String × Argument := ("name", .value (.text "\x7bcount\x7d\x7b"))
    let counted : String × Argument := ("count", .value (.int (-12)))
    Part.template parts = "a\x7b\x7bb\x7d\x7d\x7bname\x7d\x7d\x7d\x7bcount\x7d\x7bname\x7d" ∧
      (source "k").run c = (.ok (Part.template parts), c) ∧
      ((⟨"k"⟩ : Key).render source [shown, counted]).run c =
        (.ok "a\x7bb\x7d\x7bcount\x7d\x7b\x7d-12\x7bcount\x7d\x7b", c) ∧
      ((⟨"k"⟩ : Key).render source [shown]).run c = (.ok "<formatting_error for 'k'>", c) := by
  intro name count parts c source shown counted
  have hsource : (source "k").run c = (.ok (Part.template parts), c) := rfl
  have hnames : ∀ a ∈ [shown, counted], a.1 ∉ sentNames := by decide
  have hname : ∀ a ∈ [shown], a.1 ∉ sentNames := by decide
  refine ⟨by decide +kernel, hsource, ?_, ?_⟩
  · have htexts : ∀ field, .field field ∈ parts → field.HasText [shown, counted] := by
      intro field hfield
      simp only [parts, List.mem_cons, List.not_mem_nil, or_false, Part.field.injEq, reduceCtorEq,
        false_or] at hfield
      rcases hfield with rfl | rfl | rfl
      · exact ⟨shown.2, rfl, Argument.hasText_text _⟩
      · exact ⟨counted.2, rfl, (Argument.hasText_int _).trans (by decide +kernel)⟩
      · exact ⟨shown.2, rfl, Argument.hasText_text _⟩
    rw [(render_template hsource hnames).2.1 htexts]
    exact congrArg (fun text => (Except.ok text, c)) (by decide +kernel)
  · refine (render_template hsource hname).2.2 ⟨count, by simp [parts], ?_⟩
    rintro ⟨a, ha, -⟩
    cases ha

end TestSkeleton
