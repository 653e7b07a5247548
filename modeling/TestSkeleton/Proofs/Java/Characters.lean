import TestSkeleton.Java.TestClass
import TestSkeleton.Proofs.Java.Samples
import TestSkeleton.Proofs.Text.Lacking

/-!
# Characters of members

The texts of a class from which its test class is written, and what is made of them: names of tests,
fields, receivers and samples. Marks, which are neither letters nor digits, come into those from the
texts of the class alone.
-/

namespace TestSkeleton.Java

open Text

variable {cs : List Char}

/-! ### Types and samples -/

/-- What a type lacks, its erasure lacks. -/
theorem TypeText.lacks_erase {type : String} (h : Lacks cs type) : Lacks cs (erase type) :=
  h.of_subset fun x hx => by
    rw [toList_erase] at hx
    exact (List.takeWhile_prefix _).subset hx

/-- Marks that a type lacks, its token lacks. -/
theorem TypeText.lacks_token {type : String} (hcs : cs.all isMark)
    (h : Lacks cs type) : Lacks cs (token type) := by
  have htrim {s : String} (hs : Lacks cs s) : Lacks cs (trim s) := hs.of_subset fun x hx => by
    obtain ⟨before, after, hs, -⟩ := standsIn_trim s
    rw [hs]
    exact List.mem_append_left _ (List.mem_append_right _ hx)
  have helement : Lacks cs (arrayShape type).element :=
    (htrim h).of_subset fun x hx => (element_isPrefix type).subset hx
  have hname : Lacks cs (afterLast '.' (trim (erase (arrayShape type).element))) :=
    (htrim (lacks_erase helement)).of_subset fun x hx => (afterLast_suffix '.' _).subset hx
  have harray : Lacks cs "Array" := lacks_of_not_any_mark hcs (by decide)
  rw [token]
  refine lacks_append.mpr ⟨Lacks.capitalize hcs hname, lacks_join fun s hs => ?_⟩
  rwa [List.eq_of_mem_replicate hs]

/-- The element type of a new array, its keyword and its brackets are all that is in it. -/
theorem lacks_newArray {type element : String} (hnew : Lacks cs "new [0]")
    (h : Lacks cs (TypeText.erase type))
    (helement : element.toList <:+: (TypeText.erase type).toList) (dims : Nat) :
    Lacks cs ("new " ++ element ++ "[0]" ++ String.join (List.replicate dims "[]")) := by
  refine lacks_append.mpr ⟨lacks_append.mpr ⟨lacks_append.mpr ⟨?_, ?_⟩, ?_⟩, ?_⟩
  · exact hnew.of_subset (by decide)
  · exact h.of_subset fun x hx => helement.subset hx
  · exact hnew.of_subset (by decide)
  · refine lacks_join fun s hs => ?_
    rw [List.eq_of_mem_replicate hs]
    exact hnew.of_subset (by decide)

/-- What the type lacks before its generic arguments is lacking in its samples, if the listed
samples and new arrays lack it as well. -/
theorem lacks_sample {type : String} (hlisted : ∀ s ∈ "new [0]" :: listedSamples, Lacks cs s)
    (h : Lacks cs (TypeText.erase type)) (variant : Int) : Lacks cs (sample type variant) := by
  have hform := isSampleOf_sample type variant
  generalize sample type variant = s at hform
  cases hform with
  | listed hs => exact hlisted _ (List.mem_cons_of_mem _ hs)
  | array helement dims => exact lacks_newArray (hlisted _ List.mem_cons_self) h helement dims

/-- Arguments lack what samples, commas and the types of the parameters lack. -/
theorem lacks_arguments {parameters : List Parameter} (hcomma : Lacks cs ", ")
    (hlisted : ∀ s ∈ "new [0]" :: listedSamples, Lacks cs s)
    (h : ∀ p ∈ parameters, Lacks cs p.type) (variant : Int) :
    Lacks cs (arguments parameters variant) := by
  refine lacks_intercalate hcomma fun s hs => ?_
  obtain ⟨p, hp, rfl⟩ := List.mem_map.mp hs
  exact lacks_sample hlisted (TypeText.lacks_erase (h p hp)) variant

/-! ### Names -/

namespace Name

private def isLetter (n : Nat) : Bool := (65 ≤ n && n ≤ 90) || (97 ≤ n && n ≤ 122)

private theorem letter_in_quotes : ∀ n < 123, isLetter n = true →
    quotedChar '\'' (Char.ofNat n) = [Char.ofNat n] ∧
      quotedChar '"' (Char.ofNat n) = [Char.ofNat n] ∧
      Char.ofNat n ≠ '\'' ∧ Char.ofNat n ≠ '"' ∧ (Char.ofNat n).toNat < 0x80 ∧
      isMark (Char.ofNat n) = false := by decide +kernel

private theorem lt_of_isLetter {n : Nat} (h : isLetter n = true) : n < 123 := by
  simp only [isLetter, Bool.or_eq_true, Bool.and_eq_true, decide_eq_true_eq] at h
  omega

private theorem quotedChar_letter {n : Nat} (h : isLetter n = true) (xs : List Char) :
    quotedChar (quoteFor xs) (Char.ofNat n) = [Char.ofNat n] := by
  obtain ⟨hsingle, hdouble, -⟩ := letter_in_quotes n (lt_of_isLetter h) h
  rw [quoteFor]
  split
  · exact hdouble
  · exact hsingle

private theorem exists_quotedBytes_cons (bs : List UInt8) :
    ∃ before after, ∀ b : UInt8, isLetter b.toNat = true →
      (quotedBytes (b :: bs)).toList = before ++ Char.ofNat b.toNat :: after := by
  let rest := bs.map fun b => Char.ofNat b.toNat
  let q := quoteFor rest
  refine ⟨['b', q], rest.flatMap (fun c =>
    if c.toNat < 0x80 then quotedChar q c else '\\' :: 'x' :: hex 2 c.toNat) ++ [q], ?_⟩
  intro b hb
  obtain ⟨-, -, hsingle, hdouble, hascii, -⟩ := letter_in_quotes _ (lt_of_isLetter hb) hb
  -- a letter is no quote, so the quote is the one for the rest
  have hquote : quoteFor (Char.ofNat b.toNat :: rest) = q := by
    simp only [q, quoteFor, List.contains_cons, beq_eq_false_iff_ne.mpr hsingle.symm,
      beq_eq_false_iff_ne.mpr hdouble.symm, Bool.false_or]
  rw [quotedBytes, List.map_cons, String.toList_ofList, hquote, List.flatMap_cons, if_pos hascii,
    quotedChar_letter hb rest]
  rfl

private theorem lacks_quotedBytes_cons (hcs : cs.all isMark) {b : UInt8}
    {bs : List UInt8} (b' : UInt8) (hb : b' = b ∨ isLetter b.toNat = true ∧ isLetter b'.toNat = true)
    (h : Lacks cs (quotedBytes (b :: bs))) : Lacks cs (quotedBytes (b' :: bs)) := by
  rcases hb with rfl | ⟨hb, hb'⟩
  · exact h
  obtain ⟨before, after, hbytes⟩ := exists_quotedBytes_cons bs
  intro x hx
  rw [hbytes b' hb', List.mem_append, List.mem_cons] at hx
  have hkept (hx : x ∈ before ++ Char.ofNat b.toNat :: after) : x ∉ cs :=
    h x (by rwa [hbytes b hb])
  rcases hx with hx | rfl | hx
  · exact hkept (List.mem_append_left _ hx)
  · intro hmem
    obtain ⟨-, -, -, -, -, hnot⟩ := letter_in_quotes _ (lt_of_isLetter hb') hb'
    rw [List.all_eq_true.mp hcs _ hmem] at hnot
    cases hnot
  · exact hkept (List.mem_append_right _ (List.mem_cons_of_mem _ hx))

/-- Marks that a name lacks, it lacks in lower case. -/
theorem lacks_decapitalize (hcs : cs.all isMark) {name : Name}
    (h : Lacks cs name.display) : Lacks cs name.decapitalize.display := by
  cases name with
  | text s => exact Lacks.decapitalize hcs h
  | bytes bs =>
    cases bs with
    | nil => exact h
    | cons b bs =>
      refine lacks_quotedBytes_cons hcs (if 65 ≤ b && b ≤ 90 then b + 32 else b) ?_ h
      split
      · next hupper =>
        simp only [Bool.and_eq_true, decide_eq_true_eq, UInt8.le_iff_toNat_le] at hupper
        simp only [isLetter, UInt8.toNat_add, Bool.or_eq_true, Bool.and_eq_true, decide_eq_true_eq]
        have hlow : (65 : UInt8).toNat = 65 := rfl
        have hhigh : (90 : UInt8).toNat = 90 := rfl
        have hstep : (32 : UInt8).toNat = 32 := rfl
        omega
      · exact .inl rfl

/-- Marks that a name lacks, it lacks in upper case. -/
theorem lacks_capitalize (hcs : cs.all isMark) {name : Name}
    (h : Lacks cs name.display) : Lacks cs name.capitalize.display := by
  cases name with
  | text s => exact Lacks.capitalize hcs h
  | bytes bs =>
    cases bs with
    | nil => exact h
    | cons b bs =>
      refine lacks_quotedBytes_cons hcs (if 97 ≤ b && b ≤ 122 then b - 32 else b) ?_ h
      split
      · next hlower =>
        simp only [Bool.and_eq_true, decide_eq_true_eq, UInt8.le_iff_toNat_le] at hlower
        simp only [isLetter, UInt8.toNat_sub, Bool.or_eq_true, Bool.and_eq_true, decide_eq_true_eq]
        have hlow : (97 : UInt8).toNat = 97 := rfl
        have hhigh : (122 : UInt8).toNat = 122 := rfl
        have hstep : (32 : UInt8).toNat = 32 := rfl
        omega
      · exact .inl rfl

end Name

/-! ### Members -/

/-- The texts that a test of a method is written from. -/
def Method.texts (m : Method) : List String :=
  m.name :: m.returnType :: m.parameters.map Parameter.type

/-- The texts that a test class is written from: the names of the class, which has a simple name,
and of its public methods, and their type texts. -/
def ClassInfo.texts (c : ClassInfo) (name : Name) : List String :=
  c.canonicalName :: c.simpleName.display :: name.display ::
    (c.constructorParameters.map Parameter.type ++ c.publicMethods.flatMap Method.texts)

/-- What holds of the texts of a class, one by one. -/
theorem ClassInfo.forall_texts_iff {P : String → Prop} {c : ClassInfo} {name : Name} :
    (∀ t ∈ c.texts name, P t) ↔ P c.canonicalName ∧ P c.simpleName.display ∧ P name.display ∧
      (∀ p ∈ c.constructorParameters, P p.type) ∧ ∀ m ∈ c.publicMethods, ∀ t ∈ m.texts, P t := by
  simp only [texts, List.forall_mem_append, List.forall_mem_cons, List.forall_mem_map,
    List.forall_mem_flatMap]

/-- What a canonical name lacks, the package of the class lacks. -/
theorem ClassInfo.lacks_packageName {c : ClassInfo} (h : Lacks cs c.canonicalName) :
    Lacks cs c.packageName :=
  h.of_subset fun _ hx => (beforeLast_isPrefix '.' c.canonicalName).subset hx

/-- What holds of all texts of a method: of its name, its result and its parameters. -/
theorem Method.forall_texts_iff {P : String → Prop} {m : Method} :
    (∀ t ∈ m.texts, P t) ↔ P m.name ∧ P m.returnType ∧ ∀ p ∈ m.parameters, P p.type := by
  simp only [texts, List.forall_mem_cons, List.forall_mem_map]

namespace Method

variable {m : Method}

/-- Marks that the texts of a method lack, the names of its tests lack. -/
theorem lacks_testName (hcs : cs.all isMark) (h : ∀ t ∈ m.texts, Lacks cs t)
    (v : Nat) : Lacks cs (m.testName v) := by
  have htest : Lacks cs "test" := lacks_of_not_any_mark hcs (by decide)
  have hname : Lacks cs m.name := h _ List.mem_cons_self
  have htypes : ∀ p ∈ m.parameters, Lacks cs p.type := fun p hp =>
    h _ (List.mem_cons_of_mem _ (List.mem_cons_of_mem _ (List.mem_map_of_mem hp)))
  have htokens : Lacks cs (String.join (m.parameters.map fun p => TypeText.token p.type)) := by
    refine lacks_join fun s hs => ?_
    obtain ⟨p, hp, rfl⟩ := List.mem_map.mp hs
    exact TypeText.lacks_token hcs (htypes p hp)
  have hvariant : Lacks cs (toString (v : Int)) := lacks_toString hcs v
  simp only [testName, testStem, lacks_append]
  exact ⟨⟨⟨htest, hname.capitalize hcs⟩, htokens⟩, hvariant⟩

/-- Marks that a field lacks, what a method is called on lacks. -/
theorem lacks_receiver (hcs : cs.all isMark) {field : Name}
    (h : Lacks cs field.display) : Lacks cs (m.receiver field).display := by
  rw [receiver]
  split
  · exact Name.lacks_capitalize hcs h
  · exact h

end Method

end TestSkeleton.Java
