import Mathlib.Data.List.Chain
import TestSkeleton.Text.Blank
import TestSkeleton.Text.Case

/-!
# The first letter, lowered and raised

Which texts come back when their first letter is put in lower case and then in upper case. The two
case mappings are compared run by run: most runs of the lower case are taken back by a run of the
upper case, and what is left is looked at letter by letter.
-/

namespace TestSkeleton.Text

namespace CaseRun

/-- Whether a number is one of those that a run stands for. The tables are long, so this is written
with the operations that the kernel computes at once. -/
def covers (r : CaseRun) (n : Nat) : Bool :=
  Nat.ble r.first n && (Nat.ble n r.last && Nat.beq ((n - r.first) % r.step) 0)

/-- The numbers that a run stands for. -/
def numbers (r : CaseRun) : List Nat :=
  (List.range ((r.last - r.first) / r.step + 1)).map fun i => r.first + r.step * i

/-- Whether one run moves all that another one yields back to where it was. -/
def undoes (u r : CaseRun) : Bool :=
  u.covers (r.first + r.shift).toNat && (Nat.ble (r.last + r.shift).toNat u.last &&
    (Nat.beq u.step r.step && u.shift + r.shift == 0))

variable {r u : CaseRun} {n : Nat}

/-- The numbers in a run, as a condition. -/
theorem covers_iff :
    r.covers n = true ↔ r.first ≤ n ∧ n ≤ r.last ∧ (n - r.first) % r.step = 0 := by
  simp [covers, Nat.ble_eq]

/-- The numbers of a run are those that it covers. -/
theorem mem_numbers (h : r.covers n = true) : n ∈ r.numbers := by
  obtain ⟨hfirst, hlast, hstep⟩ := covers_iff.mp h
  refine List.mem_map.mpr ⟨(n - r.first) / r.step, List.mem_range.mpr ?_, ?_⟩
  · exact Nat.lt_succ_of_le (Nat.div_le_div_right (Nat.sub_le_sub_right hlast _))
  · have hdiv := Nat.div_add_mod (n - r.first) r.step
    rw [hstep, Nat.add_zero] at hdiv
    rw [hdiv, Nat.add_sub_cancel' hfirst]

/-- When one run takes another one back. -/
theorem undoes_iff : u.undoes r = true ↔ u.covers (r.first + r.shift).toNat = true ∧
    (r.last + r.shift).toNat ≤ u.last ∧ u.step = r.step ∧ u.shift + r.shift = 0 := by
  simp [undoes, Nat.ble_eq]

/-- What a run yields is taken back by a run that undoes it. -/
theorem covers_of_undoes (hu : u.undoes r = true) (h : r.covers n = true)
    (hpos : 0 ≤ r.first + r.shift) : u.covers (n + r.shift).toNat = true ∧
      ((n + r.shift).toNat : Int) + u.shift = n := by
  obtain ⟨hcovers, hlast, hstep, hshift⟩ := undoes_iff.mp hu
  obtain ⟨hfirst, -, hmod⟩ := covers_iff.mp hcovers
  obtain ⟨hfirst', hlast', hmod'⟩ := covers_iff.mp h
  refine ⟨covers_iff.mpr ⟨by omega, by omega, Nat.mod_eq_zero_of_dvd ?_⟩, by omega⟩
  have hsplit : (n + r.shift).toNat - u.first =
      (n - r.first) + ((r.first + r.shift).toNat - u.first) := by omega
  rw [hsplit]
  exact Nat.dvd_add (hstep ▸ Nat.dvd_of_mod_eq_zero hmod') (Nat.dvd_of_mod_eq_zero hmod)

variable {runs : List CaseRun} {c : Char}

/-- A character that is moved is moved by a run that stands for it. -/
theorem apply_cases (runs : List CaseRun) (c : Char) :
    apply runs c = c ∨ ∃ r ∈ runs, r.covers c.toNat = true ∧
      apply runs c = Char.ofNat (c.toNat + r.shift).toNat := by
  rw [apply]
  split
  · next r hr =>
    have hcovers := List.find?_some hr
    simp only [Bool.and_eq_true, decide_eq_true_eq, beq_iff_eq] at hcovers
    exact .inr ⟨r, List.mem_of_find?_eq_some hr,
      covers_iff.mpr ⟨hcovers.1.1, hcovers.1.2, hcovers.2⟩, rfl⟩
  · exact .inl rfl

/-- Where runs do not overlap, a character is moved by the run that stands for it. -/
theorem apply_of_covers (hruns : runs.Pairwise fun r s => r.last < s.first) (hr : r ∈ runs)
    (h : r.covers c.toNat = true) : apply runs c = Char.ofNat (c.toNat + r.shift).toNat := by
  obtain ⟨hfirst, hlast, hstep⟩ := covers_iff.mp h
  have hfind : runs.find? (fun r => r.first ≤ c.toNat && c.toNat ≤ r.last &&
      (c.toNat - r.first) % r.step == 0) = some r := by
    obtain ⟨before, after, rfl⟩ := List.append_of_mem hr
    refine List.find?_eq_some_iff_append.mpr ⟨by simp [hfirst, hlast, hstep], before, after, rfl,
      fun s hs => ?_⟩
    have hbefore := (List.pairwise_append.mp hruns).2.2 s hs r List.mem_cons_self
    simp only [Bool.not_eq_true', Bool.and_eq_false_iff, decide_eq_false_iff_not]
    omega
  rw [apply, hfind]
  rfl

end CaseRun

/-! ### Back and forth -/

/-- A first letter put in lower case and then in upper case. -/
def restored (c : Char) : List Char :=
  match lowerChar c with
  | [] => []
  | d :: ds => upperChar d ++ ds

/-- The letters that have a lower case and do not come back from it: those whose lower case is also
that of another capital letter or has several letters as its upper case, and the capital I with a
dot. -/
def oneWayCapitals : List Char :=
  ['\u0130', '\u01c5', '\u01c8', '\u01cb', '\u01f2', '\u03f4', '\u1e9e', '\u1f88', '\u1f89',
   '\u1f8a', '\u1f8b', '\u1f8c', '\u1f8d', '\u1f8e', '\u1f8f', '\u1f98', '\u1f99', '\u1f9a',
   '\u1f9b', '\u1f9c', '\u1f9d', '\u1f9e', '\u1f9f', '\u1fa8', '\u1fa9', '\u1faa', '\u1fab',
   '\u1fac', '\u1fad', '\u1fae', '\u1faf', '\u1fbc', '\u1fcc', '\u1ffc', '\u2126', '\u212a',
   '\u212b']

/-! ### The tables -/

/-- A run that ends before the next one starts, which is not empty. -/
def CaseRun.Precedes (r s : CaseRun) : Prop := r.last < s.first ∧ s.first ≤ s.last

instance (r s : CaseRun) : Decidable (r.Precedes s) := inferInstanceAs (Decidable (_ ∧ _))

-- one check for all that is needed of the tables, since the kernel runs through them entry by entry
private theorem tables_checked :
    upperRuns.IsChain CaseRun.Precedes ∧
    (∀ u ∈ upperRuns, u.last < 0xd800 ∨ 0xdfff < u.first ∧ u.last < 0x110000) ∧
    (longUpper.all fun e => upperRuns.all fun u => !u.covers e.1) = true ∧
    (∀ r ∈ lowerRuns, 0 ≤ (r.first : Int) + r.shift) ∧
    (∀ r ∈ lowerRuns, (r.first : Int) + r.shift ≤ 'r'.toNat → 'r'.toNat ≤ (r.last : Int) + r.shift →
      r.shift = 32) ∧
    (∀ r ∈ lowerRuns, (upperRuns.any fun u => u.undoes r) = true ∨ ∀ n ∈ r.numbers,
      Char.ofNat n ∈ oneWayCapitals ∨ restored (Char.ofNat n) = [Char.ofNat n]) ∧
    (oneWayCapitals.all fun c => restored c != [c]) = true ∧
    (longUpper.all fun e => e.2.all fun n => !isBlank (Char.ofNat n)) = true ∧
    (upperRuns.all fun u => u.numbers.all fun n =>
      !isBlank (Char.ofNat (n + u.shift).toNat)) = true := by
  decide +kernel

private theorem pairwise_upperRuns : upperRuns.Pairwise fun r s => r.last < s.first := by
  have htrans : Trans CaseRun.Precedes CaseRun.Precedes CaseRun.Precedes :=
    ⟨fun h h' => ⟨Nat.lt_of_lt_of_le h.1 (Nat.le_trans h.2 (Nat.le_of_lt h'.1)), h'.2⟩⟩
  exact tables_checked.1.pairwise.imp And.left

private theorem isValidChar_of_upperRuns {u : CaseRun} (hu : u ∈ upperRuns) {n : Nat}
    (h : u.covers n = true) : n.isValidChar := by
  have hu := tables_checked.2.1 u hu
  obtain ⟨hfirst, hlast, -⟩ := CaseRun.covers_iff.mp h
  rw [Nat.isValidChar]
  omega

private theorem not_covers_longUpper {u : CaseRun} (hu : u ∈ upperRuns) {e : Nat × List Nat}
    (he : e ∈ longUpper) : u.covers e.1 = false := by
  have hall := List.all_eq_true.mp tables_checked.2.2.1 e he
  simpa using List.all_eq_true.mp hall u hu

private theorem nonneg_lowerRuns {r : CaseRun} (hr : r ∈ lowerRuns) :
    0 ≤ (r.first : Int) + r.shift := tables_checked.2.2.2.1 r hr

private theorem shift_of_moves_to_r {r : CaseRun} (hr : r ∈ lowerRuns)
    (hfirst : (r.first : Int) + r.shift ≤ 'r'.toNat)
    (hlast : 'r'.toNat ≤ (r.last : Int) + r.shift) : r.shift = 32 :=
  tables_checked.2.2.2.2.1 r hr hfirst hlast

private theorem undone_or_restored {r : CaseRun} (hr : r ∈ lowerRuns) :
    (∃ u ∈ upperRuns, u.undoes r = true) ∨ ∀ n ∈ r.numbers,
      Char.ofNat n ∈ oneWayCapitals ∨ restored (Char.ofNat n) = [Char.ofNat n] :=
  (tables_checked.2.2.2.2.2.1 r hr).imp_left List.any_eq_true.mp

private theorem restored_ne_of_mem {c : Char} (hc : c ∈ oneWayCapitals) : restored c ≠ [c] :=
  bne_iff_ne.mp (List.all_eq_true.mp tables_checked.2.2.2.2.2.2.1 c hc)

private theorem isBlank_longUpper {e : Nat × List Nat} (he : e ∈ longUpper) {n : Nat}
    (hn : n ∈ e.2) : isBlank (Char.ofNat n) = false := by
  have hall := List.all_eq_true.mp tables_checked.2.2.2.2.2.2.2.1 e he
  simpa using List.all_eq_true.mp hall n hn

private theorem isBlank_upperRuns {u : CaseRun} (hu : u ∈ upperRuns) {n : Nat}
    (hn : u.covers n = true) : isBlank (Char.ofNat (n + u.shift).toNat) = false := by
  have hall := List.all_eq_true.mp tables_checked.2.2.2.2.2.2.2.2 u hu
  simpa using List.all_eq_true.mp hall n (CaseRun.mem_numbers hn)

/-! ### Characters -/

private theorem elim_lookup_cases (long : List (Nat × List Nat)) (runs : List CaseRun) (c : Char)
    {cs : List Char}
    (h : cs = (long.lookup c.toNat).elim [CaseRun.apply runs c] (List.map Char.ofNat)) :
    cs = [c] ∨ (∃ e ∈ long, e.1 = c.toNat ∧ cs = e.2.map Char.ofNat) ∨
      ∃ r ∈ runs, r.covers c.toNat = true ∧ cs = [Char.ofNat (c.toNat + r.shift).toNat] := by
  subst h
  cases hlookup : long.lookup c.toNat with
  | some ns =>
    obtain ⟨before, after, hlong, -⟩ := List.lookup_eq_some_iff.mp hlookup
    exact .inr (.inl ⟨(c.toNat, ns), by simp [hlong], rfl, rfl⟩)
  | none =>
    rcases CaseRun.apply_cases runs c with h | ⟨r, hr, hcovers, h⟩
    · exact .inl (congrArg List.singleton h)
    · exact .inr (.inr ⟨r, hr, hcovers, congrArg List.singleton h⟩)

/-- A character is its own lower case, or has a listed one, or is moved by a run. -/
theorem lowerChar_cases (c : Char) :
    lowerChar c = [c] ∨ (∃ e ∈ longLower, e.1 = c.toNat ∧ lowerChar c = e.2.map Char.ofNat) ∨
      ∃ r ∈ lowerRuns, r.covers c.toNat = true ∧
        lowerChar c = [Char.ofNat (c.toNat + r.shift).toNat] :=
  elim_lookup_cases longLower lowerRuns c (lowerChar_eq c)

/-- A character is its own upper case, or has a listed one, or is moved by a run. -/
theorem upperChar_cases (c : Char) :
    upperChar c = [c] ∨ (∃ e ∈ longUpper, e.1 = c.toNat ∧ upperChar c = e.2.map Char.ofNat) ∨
      ∃ r ∈ upperRuns, r.covers c.toNat = true ∧
        upperChar c = [Char.ofNat (c.toNat + r.shift).toNat] :=
  elim_lookup_cases longUpper upperRuns c (upperChar_eq c)

/-- The upper case of a character that a run stands for. -/
theorem upperChar_of_covers {u : CaseRun} (hu : u ∈ upperRuns) {c : Char}
    (h : u.covers c.toNat = true) : upperChar c = [Char.ofNat (c.toNat + u.shift).toNat] := by
  have hlong : longUpper.lookup c.toNat = none := by
    refine List.lookup_eq_none_iff.mpr fun e he => bne_iff_ne.mpr fun heq => ?_
    have hnot := not_covers_longUpper hu he
    rw [← heq, h] at hnot
    cases hnot
  rw [upperChar_eq, hlong]
  exact congrArg List.singleton (CaseRun.apply_of_covers pairwise_upperRuns hu h)

private theorem restored_of_undoes {r u : CaseRun} {c : Char} (hr : r ∈ lowerRuns)
    (hu : u ∈ upperRuns) (hundoes : u.undoes r = true) (h : r.covers c.toNat = true)
    (hlower : lowerChar c = [Char.ofNat (c.toNat + r.shift).toNat]) : restored c = [c] := by
  obtain ⟨hcovers, hback⟩ := CaseRun.covers_of_undoes hundoes h (nonneg_lowerRuns hr)
  have hnumber : (Char.ofNat (c.toNat + r.shift).toNat).toNat = (c.toNat + r.shift).toNat := by
    have hvalue : Char.ofNat (c.toNat + r.shift).toNat = Char.ofNatAux _ _ :=
      dif_pos (isValidChar_of_upperRuns hu hcovers)
    rw [hvalue]
    rfl
  rw [restored, hlower]
  simp only [List.append_nil]
  rw [upperChar_of_covers hu (hnumber.symm ▸ hcovers), hnumber, hback, Int.toNat_natCast,
    Char.ofNat_toNat]

/-- A first letter comes back exactly if it is neither a small letter that has an upper case nor one
of the one-way capitals. -/
theorem restored_eq_iff (c : Char) :
    restored c = [c] ↔ (lowerChar c = [c] → upperChar c = [c]) ∧ c ∉ oneWayCapitals := by
  constructor
  · intro h
    refine ⟨fun hlower => ?_, fun hmem => restored_ne_of_mem hmem h⟩
    rw [restored, hlower] at h
    simpa using h
  · rintro ⟨hupper, hmem⟩
    rcases lowerChar_cases c with hlower | ⟨e, he, hc, -⟩ | ⟨r, hr, hcovers, hlower⟩
    · rw [restored, hlower]
      simpa using hupper hlower
    · have hall : ∀ e ∈ longLower, Char.ofNat e.1 ∈ oneWayCapitals := by decide
      have hlisted := hall e he
      rw [hc, Char.ofNat_toNat] at hlisted
      exact absurd hlisted hmem
    · rcases undone_or_restored hr with ⟨u, hu, hundoes⟩ | hletters
      · exact restored_of_undoes hr hu hundoes hcovers hlower
      · have hc := hletters _ (CaseRun.mem_numbers hcovers)
        rw [Char.ofNat_toNat] at hc
        exact hc.resolve_left hmem

private theorem eq_of_isBlank_of_mem_upperChar {x c : Char} (hx : isBlank x = true)
    (h : x ∈ upperChar c) : x = c := by
  rcases upperChar_cases c with hupper | ⟨e, he, -, hupper⟩ | ⟨u, hu, hcovers, hupper⟩
  · rw [hupper] at h
    exact List.mem_singleton.mp h
  · rw [hupper] at h
    obtain ⟨n, hn, rfl⟩ := List.mem_map.mp h
    rw [isBlank_longUpper he hn] at hx
    cases hx
  · rw [hupper, List.mem_singleton] at h
    rw [h, isBlank_upperRuns hu hcovers] at hx
    cases hx

/-! ### First letters of texts -/

/-- A text has no other blanks after its first letter has been put in upper case. -/
theorem mem_of_isBlank_of_mem_capitalize {x : Char} {s : String} (hx : isBlank x = true)
    (h : x ∈ (capitalize s).toList) : x ∈ s.toList := by
  rw [capitalize] at h
  split at h
  · cases h
  · next c rest hs =>
    rw [String.toList_ofList, List.mem_append] at h
    rw [hs, List.mem_cons]
    exact h.imp_left (eq_of_isBlank_of_mem_upperChar hx)

/-- Behind its first letter a text ends as before after that has been put in upper case. -/
theorem getLast?_capitalize {s : String} (h : 1 < s.toList.length) :
    (capitalize s).toList.getLast? = s.toList.getLast? := by
  cases hs : s.toList with
  | nil => simp [hs] at h
  | cons c rest =>
    have hrest : rest ≠ [] := by
      rintro rfl
      simp [hs] at h
    obtain ⟨xs, x, rfl⟩ := (List.eq_nil_or_concat' rest).resolve_left hrest
    rw [capitalize, hs]
    simp only [String.toList_ofList, ← List.cons_append, ← List.append_assoc, List.getLast?_concat]

private theorem exists_lowerChar_eq_cons (c : Char) : ∃ d ds, lowerChar c = d :: ds := by
  rcases lowerChar_cases c with h | ⟨e, he, -, h⟩ | ⟨r, -, -, h⟩
  · exact ⟨_, _, h⟩
  · have hlong : ∀ e ∈ longLower, e.2 ≠ [] := by decide
    obtain ⟨n, ns, hns⟩ := List.exists_cons_of_ne_nil (hlong e he)
    exact ⟨_, _, by rw [h, hns, List.map_cons]⟩
  · exact ⟨_, _, h⟩

private theorem toList_capitalize_decapitalize {s : String} {c : Char} {rest : List Char}
    (hs : s.toList = c :: rest) : (capitalize (decapitalize s)).toList = restored c ++ rest := by
  obtain ⟨d, ds, hlower⟩ := exists_lowerChar_eq_cons c
  have hdecapitalized : (decapitalize s).toList = d :: (ds ++ rest) := by
    rw [decapitalize, hs]
    simp [hlower]
  rw [capitalize, hdecapitalized, restored, hlower]
  simp

/-- Raising the first letter of a text takes lowering it back exactly if that letter is neither a
small letter that has an upper case nor one of the one-way capitals. -/
theorem capitalize_decapitalize_eq_iff (s : String) :
    capitalize (decapitalize s) = s ↔ ∀ c, s.toList.head? = some c →
      (lowerChar c = [c] → upperChar c = [c]) ∧ c ∉ oneWayCapitals := by
  cases hs : s.toList with
  | nil =>
    obtain rfl := String.toList_eq_nil_iff.mp hs
    simp [decapitalize, capitalize]
  | cons c rest =>
    have hcons : c :: rest = [c] ++ rest := rfl
    rw [← String.toList_inj, toList_capitalize_decapitalize hs, hs, hcons,
      List.append_cancel_right_eq, restored_eq_iff]
    simp

private theorem eq_of_lowerChar_eq_cons {c : Char} {cs : List Char} (h : lowerChar c = 'r' :: cs) :
    c = 'R' ∨ c = 'r' := by
  rcases lowerChar_cases c with hlower | ⟨e, he, -, hlower⟩ | ⟨r, hr, hcovers, hlower⟩
  · rw [hlower] at h
    exact .inr (List.cons.inj h).1
  · have hlong : ∀ e ∈ longLower, (e.2.map Char.ofNat).head? ≠ some 'r' := by decide
    have hhead := hlong e he
    rw [← hlower, h] at hhead
    exact absurd rfl hhead
  · -- 'r' is in the lower case of one run only, that of the capital letters of the alphabet.
    have hnumber : (c.toNat + r.shift).toNat = 'r'.toNat := by
      rw [hlower] at h
      have hchar : Char.ofNat (c.toNat + r.shift).toNat = 'r' := (List.cons.inj h).1
      by_cases hvalid : (c.toNat + r.shift).toNat.isValidChar
      · have hvalue : Char.ofNat (c.toNat + r.shift).toNat = Char.ofNatAux _ _ := dif_pos hvalid
        rw [← hchar, hvalue]
        rfl
      · have hzero : Char.ofNat (c.toNat + r.shift).toNat = Char.ofNatAux 0 _ := dif_neg hvalid
        rw [hzero] at hchar
        exact absurd hchar (by decide)
    obtain ⟨hfirst, hlast, -⟩ := CaseRun.covers_iff.mp hcovers
    have hsmall : 'r'.toNat = 'R'.toNat + 32 := rfl
    have hshift := shift_of_moves_to_r hr (by omega) (by omega)
    have hc : c.toNat = 'R'.toNat := by omega
    exact .inl (Char.toNat_inj.mp hc)

/-- The texts that lowering the first letter takes to `result`. -/
theorem decapitalize_eq_result_iff (s : String) :
    decapitalize s = "result" ↔ s = "Result" ∨ s = "result" := by
  constructor
  · intro h
    have hlist := congrArg String.toList h
    cases hs : s.toList with
    | nil =>
      rw [decapitalize, hs] at hlist
      simp at hlist
    | cons c rest =>
      obtain ⟨d, ds, hlower⟩ := exists_lowerChar_eq_cons c
      have hjoined : lowerChar c ++ rest = "result".toList := by
        rw [← hlist, decapitalize, hs]
        simp
      have hd : d = 'r' := by
        rw [hlower] at hjoined
        exact (List.cons.inj hjoined).1
      rcases eq_of_lowerChar_eq_cons (hd ▸ hlower) with rfl | rfl
      · have hrest : rest = "esult".toList := List.append_cancel_left hjoined
        exact .inl (String.toList_inj.mp (hs.trans (hrest ▸ rfl)))
      · have hrest : rest = "esult".toList := List.append_cancel_left hjoined
        exact .inr (String.toList_inj.mp (hs.trans (hrest ▸ rfl)))
  · rintro (rfl | rfl) <;> decide

end TestSkeleton.Text
