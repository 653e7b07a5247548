import TestSkeleton.Text.CaseRuns

/-!
# Upper and lower case

Full case mappings: one character may become several (`ß` becomes `SS`). Lowering a whole text also
knows the final form of the Greek sigma. The head functions `capitalize` and `decapitalize` change
the first character of a text and nothing else.
-/

namespace TestSkeleton.Text

-- The character of a number, when the number is a valid code point.
private def toChar (n : Nat) : Char := Char.ofNat n

/-- The single character that a list of runs maps a character to. -/
def CaseRun.apply (runs : List CaseRun) (c : Char) : Char :=
  match runs.find? fun r =>
      r.first ≤ c.toNat && c.toNat ≤ r.last && (c.toNat - r.first) % r.step == 0 with
  | some r => toChar ((c.toNat : Int) + r.shift).toNat
  | none => c

-- The full mapping of one character by long mappings first, then runs.
private def mapChar (long : List (Nat × List Nat)) (runs : List CaseRun) (c : Char) : List Char :=
  match long.lookup c.toNat with
  | some ns => ns.map toChar
  | none => [CaseRun.apply runs c]

/-- The lower case of one character, on its own. -/
def lowerChar (c : Char) : List Char := mapChar longLower lowerRuns c

/-- The upper case of one character. -/
def upperChar (c : Char) : List Char := mapChar longUpper upperRuns c

/-- The lower case of a character, from the tables. -/
theorem lowerChar_eq (c : Char) : lowerChar c =
    (longLower.lookup c.toNat).elim [CaseRun.apply lowerRuns c] (List.map Char.ofNat) := by
  rw [lowerChar, mapChar]
  cases longLower.lookup c.toNat <;> rfl

/-- The upper case of a character, from the tables. -/
theorem upperChar_eq (c : Char) : upperChar c =
    (longUpper.lookup c.toNat).elim [CaseRun.apply upperRuns c] (List.map Char.ofNat) := by
  rw [upperChar, mapChar]
  cases longUpper.lookup c.toNat <;> rfl

private def inRanges (ranges : List (Nat × Nat)) (c : Char) : Bool :=
  ranges.any fun r => r.1 ≤ c.toNat && c.toNat ≤ r.2

private def cased (cs : List Char) : Bool :=
  match cs.dropWhile (inRanges caseIgnorableRanges) with
  | [] => false
  | c :: _ => inRanges casedRanges c

-- Lowers characters, given the ones before them in reverse. A capital sigma takes its final form
-- where a cased character comes before it and none after it, ignorable characters aside.
private def lowerFrom (before : List Char) : List Char → List Char
  | [] => []
  | c :: rest =>
    (if c = 'Σ' then [if cased before && !cased rest then 'ς' else 'σ'] else lowerChar c)
      ++ lowerFrom (c :: before) rest

/-- A text in lower case. -/
def lower (s : String) : String := String.ofList (lowerFrom [] s.toList)

/-- A text with its first character in upper case. -/
def capitalize (s : String) : String :=
  match s.toList with
  | [] => ""
  | c :: rest => String.ofList (upperChar c ++ rest)

/-- A text with its first character in lower case. -/
def decapitalize (s : String) : String :=
  match s.toList with
  | [] => ""
  | c :: rest => String.ofList (lowerChar c ++ rest)

/-! ### Texts in ASCII -/

/-- The lower case of an ASCII character. -/
theorem lowerChar_of_ascii {c : Char} (h : c.toNat < 128) : lowerChar c = [c.toLower] := by
  have hall : ∀ n < 128, lowerChar (Char.ofNat n) = [(Char.ofNat n).toLower] := by decide +kernel
  simpa only [Char.ofNat_toNat] using hall c.toNat h

private theorem lowerChar_of_not_ascii {c : Char} (h : 128 ≤ c.toNat) :
    ∃ d ∈ lowerChar c, 128 ≤ d.toNat ∨ d = 'k' ∨ d = '\x00' := by
  have hchar (n : Nat) (hn : 128 ≤ n) : 128 ≤ (toChar n).toNat ∨ toChar n = '\x00' := by
    by_cases hvalid : n.isValidChar
    · have hvalue : toChar n = Char.ofNatAux n hvalid := dif_pos hvalid
      rw [hvalue]
      exact .inl hn
    · exact .inr (dif_neg hvalid)
  rw [lowerChar, mapChar]
  split
  · next ns hlong =>
    -- the only long mapping is that of a dotted capital I, which keeps its dot
    have hns : ns = [0x69, 0x307] := by
      rw [longLower, List.lookup_cons] at hlong
      split at hlong
      · exact (Option.some.inj hlong).symm
      · cases hlong
    subst hns
    exact ⟨toChar 0x307, by simp, .inl (by decide)⟩
  · refine ⟨_, List.mem_singleton_self _, ?_⟩
    rw [CaseRun.apply]
    split
    · next r hr =>
      have hruns : ∀ r ∈ lowerRuns, 128 ≤ r.last → 128 ≤ (r.first : Int) + r.shift ∨
          r.first = 0x212a ∧ r.last = 0x212a ∧ r.shift = 0x6b - 0x212a := by decide +kernel
      have hrange := List.find?_some hr
      simp only [Bool.and_eq_true, decide_eq_true_eq] at hrange
      rcases hruns r (List.mem_of_find?_eq_some hr) (by omega) with hshift | ⟨hfirst, hlast, hshift⟩
      · exact (hchar _ (by omega)).imp id .inr
      · have hc : ((c.toNat : Int) + r.shift).toNat = 0x6b := by omega
        rw [hc]
        exact .inr (.inl rfl)
    · exact .inl h

private theorem lowerFrom_of_ascii (before cs : List Char) (h : ∀ c ∈ cs, c.toNat < 128) :
    lowerFrom before cs = cs.map Char.toLower := by
  induction cs generalizing before with
  | nil => rfl
  | cons c rest ih =>
    have hc := h c List.mem_cons_self
    have hsigma : c ≠ 'Σ' := by
      rintro rfl
      exact absurd hc (by decide)
    rw [lowerFrom, if_neg hsigma, lowerChar_of_ascii hc,
      ih _ fun d hd => h d (List.mem_cons_of_mem _ hd)]
    rfl

private theorem lowerFrom_of_not_ascii (before : List Char) {cs : List Char} {c : Char}
    (hc : c ∈ cs) (h : 128 ≤ c.toNat) :
    ∃ d ∈ lowerFrom before cs, 128 ≤ d.toNat ∨ d = 'k' ∨ d = '\x00' := by
  induction cs generalizing before with
  | nil => cases hc
  | cons a rest ih =>
    rw [lowerFrom]
    rcases List.mem_cons.mp hc with rfl | hc
    · split
      · split
        · exact ⟨'ς', List.mem_append_left _ (List.mem_singleton_self _), .inl (by decide)⟩
        · exact ⟨'σ', List.mem_append_left _ (List.mem_singleton_self _), .inl (by decide)⟩
      · obtain ⟨d, hd, hnot⟩ := lowerChar_of_not_ascii h
        exact ⟨d, List.mem_append_left _ hd, hnot⟩
    · obtain ⟨d, hd, hnot⟩ := ih (a :: before) hc
      exact ⟨d, List.mem_append_right _ hd, hnot⟩

private theorem toList_toLower (s : String) : s.toLower.toList = s.toList.map Char.toLower :=
  String.toList_map

/-- The lower case of a text in ASCII. -/
theorem lower_of_ascii {s : String} (h : ∀ c ∈ s.toList, c.toNat < 128) : lower s = s.toLower := by
  apply String.toList_inj.mp
  rw [lower, lowerFrom_of_ascii _ _ h, String.toList_ofList, toList_toLower]

/-- A text that has the ASCII letters of another one, in any case, has its lower case. -/
theorem lower_of_toLower {s t : String} (h : s.toLower = t)
    (ht : (t.toList.all fun c => c.toNat < 128) = true) : lower s = t := by
  rw [← h]
  apply lower_of_ascii
  intro c hc
  refine Decidable.byContradiction fun hascii => ?_
  have hkept : c.toLower = c := by
    refine dif_neg ?_
    rintro ⟨-, hle⟩
    have : c.toNat ≤ 'Z'.toNat := hle
    exact hascii (Nat.lt_of_le_of_lt this (by decide))
  have hmem : c ∈ t.toList := by
    rw [← h, toList_toLower]
    exact List.mem_map.mpr ⟨c, hc, hkept⟩
  exact hascii (of_decide_eq_true (List.all_eq_true.mp ht c hmem))

/-- A text in ASCII is the lower case of those with its letters alone, in any case. The Kelvin sign
becomes a `k`, so the text must not have one. -/
theorem lower_eq_iff_toLower {s t : String}
    (ht : (t.toList.all fun c => c.toNat < 128 && c != 'k' && c != '\x00') = true) :
    lower s = t ↔ s.toLower = t := by
  simp only [List.all_eq_true, Bool.and_eq_true, decide_eq_true_eq, bne_iff_ne] at ht
  have htarget : (t.toList.all fun c => c.toNat < 128) = true :=
    List.all_eq_true.mpr fun c hc => decide_eq_true (ht c hc).1.1
  refine ⟨fun h => ?_, fun h => lower_of_toLower h htarget⟩
  rw [← h, lower_of_ascii]
  intro c hc
  rcases Nat.lt_or_ge c.toNat 128 with hascii | hnot
  · exact hascii
  obtain ⟨d, hd, hd'⟩ := lowerFrom_of_not_ascii [] hc hnot
  have hmem : d ∈ t.toList := by
    rw [← h, lower, String.toList_ofList]
    exact hd
  obtain ⟨⟨hascii, hk⟩, hnul⟩ := ht d hmem
  rcases hd' with hd' | rfl | rfl
  · exact absurd hascii (Nat.not_lt.mpr hd')
  · exact absurd rfl hk
  · exact absurd rfl hnul

/-! ### Characters without case -/

private def isLetter (n : Int) : Bool := (65 ≤ n && n ≤ 90) || (97 ≤ n && n ≤ 122)

/-- Whether a character is one of ASCII that case mappings yield from nothing else: neither a letter
nor the null character. -/
def isCaseless (c : Char) : Bool := c.toNat < 128 && !isLetter c.toNat && c != '\x00'

-- Whether a range of numbers is among the letters of ASCII or beyond ASCII.
private def inLetters (first last : Int) : Bool :=
  128 ≤ first || (65 ≤ first && last ≤ 90) || (97 ≤ first && last ≤ 122)

private theorem isCaseless_toChar {n : Nat} {first last : Int}
    (hrange : inLetters first last = true) (hfirst : first ≤ n) (hlast : (n : Int) ≤ last) :
    isCaseless (toChar n) = false := by
  by_cases hvalid : n.isValidChar
  · have hvalue : toChar n = Char.ofNatAux n hvalid := dif_pos hvalid
    have hn : (Char.ofNatAux n hvalid).toNat = n := rfl
    simp only [inLetters, Bool.or_eq_true, Bool.and_eq_true, decide_eq_true_eq] at hrange
    have hnot : (decide (n < 128) && !isLetter n) = false := by
      simp only [isLetter, Bool.and_eq_false_iff, Bool.not_eq_false', Bool.or_eq_true,
        Bool.and_eq_true, decide_eq_false_iff_not, decide_eq_true_eq]
      omega
    rw [hvalue, isCaseless, hn, hnot, Bool.false_and]
  · have hvalue : toChar n = '\x00' := dif_neg hvalid
    rw [hvalue]
    decide

private theorem eq_of_mem_mapChar {long : List (Nat × List Nat)} {runs : List CaseRun}
    (hlong : ∀ e ∈ long, ∀ n ∈ e.2, inLetters n n = true)
    (hruns : ∀ r ∈ runs, inLetters (r.first + r.shift) (r.last + r.shift) = true)
    {x c : Char} (hx : isCaseless x = true) (h : x ∈ mapChar long runs c) : x = c := by
  rw [mapChar] at h
  split at h
  · next ns hns =>
    obtain ⟨n, hn, rfl⟩ := List.mem_map.mp h
    obtain ⟨l₁, l₂, rfl, -⟩ := List.lookup_eq_some_iff.mp hns
    have hletter := hlong (c.toNat, ns) (List.mem_append_right _ List.mem_cons_self) n hn
    rw [isCaseless_toChar hletter (Int.le_refl _) (Int.le_refl _)] at hx
    cases hx
  · rw [List.mem_singleton] at h
    subst h
    rw [CaseRun.apply] at hx ⊢
    split at hx
    · next r hr =>
      have hrange := List.find?_some hr
      have hletters := hruns r (List.mem_of_find?_eq_some hr)
      simp only [Bool.and_eq_true, decide_eq_true_eq] at hrange
      have hnonneg : 0 ≤ (r.first : Int) + r.shift := by
        simp only [inLetters, Bool.or_eq_true, Bool.and_eq_true, decide_eq_true_eq] at hletters
        omega
      rw [isCaseless_toChar hletters (by omega) (by omega)] at hx
      cases hx
    · rfl

/-- Lower case has a character without case only from itself. -/
theorem eq_of_mem_lowerChar {x c : Char} (hx : isCaseless x = true) (h : x ∈ lowerChar c) :
    x = c :=
  eq_of_mem_mapChar (by decide +kernel) (by decide +kernel) hx h

/-- Upper case has a character without case only from itself. -/
theorem eq_of_mem_upperChar {x c : Char} (hx : isCaseless x = true) (h : x ∈ upperChar c) :
    x = c :=
  eq_of_mem_mapChar (by decide +kernel) (by decide +kernel) hx h

private theorem not_mem_changeHead {f : Char → List Char} {x : Char} {s : String}
    (hf : ∀ c, x ∈ f c → x = c) (h : x ∉ s.toList) :
    x ∉ (match s.toList with
      | [] => ""
      | c :: rest => String.ofList (f c ++ rest)).toList := by
  intro hmem
  split at hmem
  · cases hmem
  · next c rest hs =>
    rw [hs] at h
    rw [String.toList_ofList, List.mem_append] at hmem
    rcases hmem with hc | hrest
    · exact h (List.mem_cons.mpr (.inl (hf c hc)))
    · exact h (List.mem_cons_of_mem c hrest)

/-- A text has no other characters without case after its first letter has been put in upper
case. -/
theorem not_mem_capitalize {x : Char} {s : String} (hx : isCaseless x = true)
    (h : x ∉ s.toList) : x ∉ (capitalize s).toList :=
  not_mem_changeHead (fun _ => eq_of_mem_upperChar hx) h

/-- A text has no other characters without case after its first letter has been put in lower
case. -/
theorem not_mem_decapitalize {x : Char} {s : String} (hx : isCaseless x = true)
    (h : x ∉ s.toList) : x ∉ (decapitalize s).toList :=
  not_mem_changeHead (fun _ => eq_of_mem_lowerChar hx) h

end TestSkeleton.Text
