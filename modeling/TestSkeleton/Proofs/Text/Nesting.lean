import TestSkeleton.Proofs.Text.Lacking

/-!
# Nesting

Which brackets a text leaves open. The open brackets are a stack, the latest one first, and a
closing bracket has to match that one. What a text does to the stack does not depend on what is
further down in it, so the effects of texts compose.
-/

namespace TestSkeleton.Text

/-- The brackets that are counted. -/
inductive Bracket where
  | brace
  | paren
deriving DecidableEq, Repr

namespace Bracket

/-- The character that opens a bracket. -/
def opening : Bracket → Char
  | brace => '\x7b'
  | paren => '('

/-- The character that closes a bracket. -/
def closing : Bracket → Char
  | brace => '\x7d'
  | paren => ')'

/-- All characters of brackets. -/
def marks : List Char := ['\x7b', '\x7d', '(', ')']

/-- The bracket that a character opens. -/
def ofOpening? (c : Char) : Option Bracket := [brace, paren].find? (·.opening == c)

/-- The bracket that a character closes. -/
def ofClosing? (c : Char) : Option Bracket := [brace, paren].find? (·.closing == c)

variable {b : Bracket} {c : Char}

/-- What is read as an opening bracket is one. -/
theorem opening_of_ofOpening? (h : ofOpening? c = some b) : c = b.opening := by
  rw [ofOpening?] at h
  have hb : (b.opening == c) = true := List.find?_some (p := fun b : Bracket => b.opening == c) h
  exact (beq_iff_eq.mp hb).symm

/-- What is read as a closing bracket is one. -/
theorem closing_of_ofClosing? (h : ofClosing? c = some b) : c = b.closing := by
  rw [ofClosing?] at h
  have hb : (b.closing == c) = true := List.find?_some (p := fun b : Bracket => b.closing == c) h
  exact (beq_iff_eq.mp hb).symm

/-- What is not read as an opening bracket is none. -/
theorem ne_opening_of_ofOpening? (h : ofOpening? c = none) (b : Bracket) : c ≠ b.opening := by
  rintro rfl
  exact absurd h (by cases b <;> decide)

/-- What is not read as a closing bracket is none. -/
theorem ne_closing_of_ofClosing? (h : ofClosing? c = none) (b : Bracket) : c ≠ b.closing := by
  rintro rfl
  exact absurd h (by cases b <;> decide)

/-- A character that is no mark is neither opening nor closing. -/
theorem ne_of_not_mem_marks (h : c ∉ marks) (b : Bracket) : c ≠ b.opening ∧ c ≠ b.closing := by
  constructor
  · rintro rfl
    exact h (by cases b <;> decide)
  · rintro rfl
    exact h (by cases b <;> decide)

end Bracket

/-- The open brackets after one more character. -/
def nest (stack : List Bracket) (c : Char) : Option (List Bracket) :=
  match Bracket.ofOpening? c, Bracket.ofClosing? c with
  | some b, _ => some (b :: stack)
  | none, some b => if stack.head? = some b then some stack.tail else none
  | none, none => some stack

/-- The open brackets after a text, if each of its closing brackets matches the latest open one. -/
def unclosed (stack : List Bracket) (s : String) : Option (List Bracket) := s.toList.foldlM nest stack

/-- Every bracket of a text is closed, in the order that nesting asks for. -/
def WellNested (s : String) : Prop := unclosed [] s = some []

variable {stack stack' more : List Bracket} {c : Char} {s t : String}

/-! ### One character -/

/-- What a character does to the open brackets. -/
theorem nest_cases (h : nest stack c = some stack') :
    (∃ b : Bracket, c = b.opening ∧ stack' = b :: stack) ∨
      (∃ b : Bracket, c = b.closing ∧ stack = b :: stack') ∨
      (∀ b : Bracket, c ≠ b.opening ∧ c ≠ b.closing) ∧ stack' = stack := by
  cases hopening : Bracket.ofOpening? c with
  | some b =>
    simp only [nest, hopening] at h
    exact .inl ⟨b, Bracket.opening_of_ofOpening? hopening, (Option.some.inj h).symm⟩
  | none =>
    cases hclosing : Bracket.ofClosing? c with
    | some b =>
      simp only [nest, hopening, hclosing] at h
      split at h
      · next hhead =>
        obtain ⟨rest, rfl⟩ := List.head?_eq_some_iff.mp hhead
        obtain rfl := Option.some.inj h
        exact .inr (.inl ⟨b, Bracket.closing_of_ofClosing? hclosing, rfl⟩)
      · cases h
    | none =>
      simp only [nest, hopening, hclosing] at h
      refine .inr (.inr ⟨fun b => ?_, (Option.some.inj h).symm⟩)
      exact ⟨Bracket.ne_opening_of_ofOpening? hopening b, Bracket.ne_closing_of_ofClosing? hclosing b⟩

/-- An opening bracket goes on the stack. -/
theorem nest_opening (b : Bracket) (stack : List Bracket) :
    nest stack b.opening = some (b :: stack) := by
  cases b <;> rfl

/-- A closing bracket takes its opening bracket from the stack. -/
theorem nest_closing (b : Bracket) (stack : List Bracket) :
    nest (b :: stack) b.closing = some stack := by
  cases b <;> rfl

/-- Other characters leave the stack. -/
theorem nest_of_ne (h : ∀ b : Bracket, c ≠ b.opening ∧ c ≠ b.closing) (stack : List Bracket) :
    nest stack c = some stack := by
  have hopening : Bracket.ofOpening? c = none := Option.eq_none_iff_forall_ne_some.mpr fun b hb =>
    (h b).1 (Bracket.opening_of_ofOpening? hb)
  have hclosing : Bracket.ofClosing? c = none := Option.eq_none_iff_forall_ne_some.mpr fun b hb =>
    (h b).2 (Bracket.closing_of_ofClosing? hb)
  simp only [nest, hopening, hclosing]

/-- What is further down in the stack stays. -/
theorem nest_append (h : nest stack c = some stack') (more : List Bracket) :
    nest (stack ++ more) c = some (stack' ++ more) := by
  rcases nest_cases h with ⟨b, rfl, rfl⟩ | ⟨b, rfl, rfl⟩ | ⟨hc, rfl⟩
  · exact nest_opening b _
  · exact nest_closing b _
  · exact nest_of_ne hc _

/-- What is opened is closed or stays open. -/
theorem count_of_nest (h : nest stack c = some stack') (b : Bracket) :
    [c].count b.opening + stack.count b = [c].count b.closing + stack'.count b := by
  rcases nest_cases h with ⟨b', rfl, rfl⟩ | ⟨b', rfl, rfl⟩ | ⟨hc, rfl⟩
  · cases b <;> cases b' <;> simp [Bracket.opening, Bracket.closing] <;> omega
  · cases b <;> cases b' <;> simp [Bracket.opening, Bracket.closing] <;> omega
  · simp [(hc b).1, (hc b).2]

/-! ### Texts -/

/-- A text acts on the stack that the text before it leaves. -/
theorem unclosed_append (stack : List Bracket) (s t : String) :
    unclosed stack (s ++ t) = (unclosed stack s).bind (unclosed · t) := by
  rw [unclosed, String.toList_append, List.foldlM_append]
  rfl

/-- What is further down in the stack stays. -/
theorem unclosed_append_stack (h : unclosed stack s = some stack') (more : List Bracket) :
    unclosed (stack ++ more) s = some (stack' ++ more) := by
  rw [unclosed] at h ⊢
  generalize s.toList = cs at h ⊢
  induction cs generalizing stack with
  | nil =>
    obtain rfl := Option.some.inj h
    rfl
  | cons c cs ih =>
    rw [List.foldlM_cons] at h ⊢
    obtain ⟨next, hnext, hrest⟩ := Option.bind_eq_some_iff.mp h
    rw [nest_append hnext more]
    exact ih hrest

/-- What a text opens it closes or leaves open. -/
theorem count_of_unclosed (h : unclosed stack s = some stack') (b : Bracket) :
    s.toList.count b.opening + stack.count b = s.toList.count b.closing + stack'.count b := by
  rw [unclosed] at h
  generalize s.toList = cs at h ⊢
  induction cs generalizing stack with
  | nil =>
    obtain rfl := Option.some.inj h
    rfl
  | cons c cs ih =>
    rw [List.foldlM_cons] at h
    obtain ⟨next, hnext, hrest⟩ := Option.bind_eq_some_iff.mp h
    have hc := count_of_nest hnext b
    have hcs := ih hrest
    rw [← List.singleton_append, List.count_append, List.count_append]
    omega

/-- No beginning of a text closes more than it opens, if the text is well nested. -/
theorem WellNested.of_append (h : WellNested (s ++ t)) :
    ∃ stack, unclosed [] s = some stack ∧
      ∀ b : Bracket, s.toList.count b.opening = s.toList.count b.closing + stack.count b := by
  rw [WellNested, unclosed_append] at h
  obtain ⟨stack, hs, -⟩ := Option.bind_eq_some_iff.mp h
  exact ⟨stack, hs, count_of_unclosed hs⟩

/-- A closing bracket does not match an open one of the other kind. -/
example : unclosed [] "(\x7b)" = none ∧ unclosed [] "(\x7b" = some [.brace, .paren] := by decide

/-- A part of a text that starts and ends with the same brackets open. -/
def StandsAt (stack : List Bracket) (text before part : String) : Prop :=
  (∃ after, text = before ++ part ++ after) ∧ unclosed [] before = some stack ∧
    unclosed [] (before ++ part) = some stack

/-! ### Effects -/

/-- What a text does to the open brackets, and how many braces it opens. -/
structure Turns (before : List Bracket) (s : String) (after : List Bracket) (braces : Nat) : Prop where
  unclosed : unclosed before s = some after
  count : s.toList.count Bracket.brace.opening = braces

instance (before : List Bracket) (s : String) (after : List Bracket) (braces : Nat) :
    Decidable (Turns before s after braces) :=
  decidable_of_iff (unclosed before s = some after ∧ s.toList.count Bracket.brace.opening = braces)
    ⟨fun h => ⟨h.1, h.2⟩, fun h => ⟨h.1, h.2⟩⟩

namespace Turns

variable {before mid after : List Bracket} {m n : Nat} {ss : List String}

/-- Turns compose, and their braces add up. -/
theorem append (h : Turns before s mid m) (h' : Turns mid t after n) :
    Turns before (s ++ t) after (m + n) where
  unclosed := by rw [unclosed_append, h.unclosed]; exact h'.unclosed
  count := by rw [String.toList_append, List.count_append, h.count, h'.count]

/-- What is further down in the stack stays. -/
theorem append_stack (h : Turns before s after n) (more : List Bracket) :
    Turns (before ++ more) s (after ++ more) n :=
  ⟨unclosed_append_stack h.unclosed more, h.count⟩

/-- The empty text leaves the stack. -/
theorem empty (stack : List Bracket) : Turns stack "" stack 0 := ⟨rfl, rfl⟩

/-- A text without brackets changes nothing. -/
theorem of_lacks (h : Lacks Bracket.marks s) : Turns [] s [] 0 where
  unclosed := by
    rw [Text.unclosed]
    have hstep : ∀ c ∈ s.toList, nest [] c = some [] := fun c hc =>
      nest_of_ne (Bracket.ne_of_not_mem_marks (h c hc)) []
    generalize s.toList = cs at hstep
    induction cs with
    | nil => rfl
    | cons c cs ih =>
      rw [List.foldlM_cons, hstep c List.mem_cons_self]
      exact ih fun x hx => hstep x (List.mem_cons_of_mem _ hx)
  count := List.count_eq_zero.mpr fun hmem => h _ hmem (by decide)

/-- Texts one after the other, each of which closes what it opens. -/
theorem join (h : ∀ s ∈ ss, Turns [] s [] n) : Turns [] (String.join ss) [] (ss.length * n) := by
  induction ss with
  | nil => simpa using empty []
  | cons s ss ih =>
    have hrest := ih fun t ht => h t (List.mem_cons_of_mem _ ht)
    rw [String.join_cons, List.length_cons, Nat.succ_mul, Nat.add_comm]
    exact (h s List.mem_cons_self).append hrest

/-- Texts with a separator between them, each of which closes what it opens. -/
theorem intercalate {sep : String} (hsep : Turns [] sep [] 0) (h : ∀ s ∈ ss, Turns [] s [] n) :
    Turns [] (sep.intercalate ss) [] (ss.length * n) := by
  induction ss with
  | nil => simpa using empty []
  | cons s ss ih =>
    have hs := h s List.mem_cons_self
    have hrest := ih fun t ht => h t (List.mem_cons_of_mem _ ht)
    cases ss with
    | nil => simpa using hs
    | cons next ss =>
      rw [String.intercalate_cons_cons, List.length_cons, Nat.succ_mul, Nat.add_comm]
      exact (hs.append hsep).append hrest

end Turns

end TestSkeleton.Text
