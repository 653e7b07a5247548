import TestSkeleton.Proofs.Number.Length
import TestSkeleton.Proofs.Outcome
import TestSkeleton.Toml.Reader

/-!
# Negative numbers in TOML

How long the negative numbers of a document are. A whole number has a sign only in decimal digits,
of which there may not be too many; in another base it may be of any length, but not negative. What
one reader gives is kept by the tables that it goes into, and so by all lines of a document.
-/

namespace TestSkeleton.Toml

open TextProblem (require_eq_ok)

variable {v : Value} {es : Entries} {cs rest : List Char} {fuel room : Nat}

/-! ### Numbers -/

/-- A value in which no negative number has too many digits to be written. -/
inductive HasShortNegatives : Value → Prop
  | text (s : String) : HasShortNegatives (.text s)
  | bool (b : Bool) : HasShortNegatives (.bool b)
  | int {i : Int} (h : i < 0 → Numeral.isLong i = false) : HasShortNegatives (.int i)
  | float (x : Binary64) : HasShortNegatives (.float x)
  | moment (m : Moment) : HasShortNegatives (.moment m)
  | list {xs : List Value} (h : ∀ x ∈ xs, HasShortNegatives x) : HasShortNegatives (.list xs)
  | map {es : Entries} (h : ∀ e ∈ es, HasShortNegatives e.2) : HasShortNegatives (.map es)

private theorem hasShortNegatives_of_marked? (h : marked? cs = some (v, rest)) :
    HasShortNegatives v := by
  unfold marked? at h
  dsimp only at h
  split at h
  all_goals first
    | cases h
    | obtain ⟨r, -, h⟩ := Option.map_eq_some_iff.mp h
      cases h
      exact .int fun hneg => absurd hneg (Int.not_lt.mpr (Int.natCast_nonneg _))

private theorem hasShortNegatives_of_decimal? (h : decimal? cs = some (.ok v, rest)) :
    HasShortNegatives v := by
  unfold decimal? at h
  obtain ⟨negative, digits⟩ := Numeral.splitSign cs
  dsimp only at h
  obtain ⟨⟨whole, rest⟩, -, h⟩ := Option.bind_eq_some_iff.mp h
  dsimp only at h
  split at h
  · split at h
    · next hread =>
      cases h
      exact .int fun _ => Numeral.isLong_of_ofDecimalDigits? hread
    · cases h
  · cases h
    exact .float _

private theorem hasShortNegatives_of_number (h : number cs = .ok (v, rest)) :
    HasShortNegatives v := by
  rw [number] at h
  split at h
  · next hmarked =>
    cases h
    exact hasShortNegatives_of_marked? hmarked
  · split at h
    · next hdecimal =>
      cases h
      exact hasShortNegatives_of_decimal? hdecimal
    · cases h
    · dsimp only at h
      split at h
      · cases h
        exact .float _
      · cases h
        exact .float _
      · cases h

/-! ### Tables -/

/-- Entries whose values have only short negative numbers. -/
def AllShort (es : Entries) : Prop := ∀ e ∈ es, HasShortNegatives e.2

/-- What stands under a key has only short negative numbers. -/
theorem AllShort.of_get? {key : String} (h : AllShort es) (hv : Value.get? es key = some v) :
    HasShortNegatives v := by
  obtain ⟨e, he, rfl⟩ := Option.map_eq_some_iff.mp hv
  exact h e (List.mem_of_find?_eq_some he)

private theorem AllShort.insertEntry (h : AllShort es) (k : Value) (hv : HasShortNegatives v) :
    AllShort (Value.insertEntry es k v) := by
  intro e he
  rcases Value.mem_insertEntry he with he | ⟨hnew, -⟩
  · exact h e he
  · rwa [hnew]

/-- There is no number in no entries. -/
theorem AllShort.nil : AllShort [] := List.forall_mem_nil _

-- A change of a table that brings no long negative number in.
private def KeepsShort (change : Entries → Option Entries) : Prop :=
  ∀ es es', AllShort es → change es = some es' → AllShort es'

private theorem keeps_addMember? (key : String) (hv : HasShortNegatives v) :
    KeepsShort (addMember? key v) := by
  intro es es' hes h
  rw [addMember?] at h
  split at h
  · cases h
  · cases h
    exact hes.insertEntry _ hv

private theorem keeps_growArray? (key : String) : KeepsShort (growArray? key) := by
  intro es es' hes h
  have hempty : HasShortNegatives (.map []) := .map (List.forall_mem_nil _)
  rw [growArray?] at h
  split at h
  · cases h
    exact hes.insertEntry _ (.list (List.forall_mem_singleton.mpr hempty))
  · next hkey =>
    cases h
    cases hes.of_get? hkey with
    | list hxs =>
      refine hes.insertEntry _ (.list (List.forall_mem_append.mpr ⟨hxs, ?_⟩))
      exact List.forall_mem_singleton.mpr hempty
  · cases h

private theorem keeps_changeTable? {throughArrays : Bool} {change : Entries → Option Entries}
    (h : KeepsShort change) (keys : List String) :
    KeepsShort (changeTable? throughArrays change keys) := by
  induction keys with
  | nil =>
    intro es es' hes hchange
    rw [changeTable?] at hchange
    exact h es es' hes hchange
  | cons key keys ih =>
    intro es es' hes hchange
    rw [changeTable?] at hchange
    split at hchange
    · obtain ⟨sub, hsub, hchange⟩ := Option.bind_eq_some_iff.mp hchange
      cases hchange
      exact hes.insertEntry _ (.map (ih _ _ .nil hsub))
    · next hkey =>
      obtain ⟨sub, hsub, hchange⟩ := Option.bind_eq_some_iff.mp hchange
      cases hchange
      cases hes.of_get? hkey with
      | map hbefore => exact hes.insertEntry _ (.map (ih _ _ hbefore hsub))
    · next xs hkey =>
      split at hchange
      · next before hlast =>
        obtain ⟨sub, hsub, hchange⟩ := Option.bind_eq_some_iff.mp hchange
        cases hchange
        cases hes.of_get? hkey with
        | list hxs =>
          have hall : ∀ x ∈ xs.reverse, HasShortNegatives x :=
            fun x hx => hxs x (List.mem_reverse.mp hx)
          rw [hlast] at hall
          obtain ⟨hmap, hbefore⟩ := List.forall_mem_cons.mp hall
          cases hmap with
          | map hold =>
            refine hes.insertEntry _ (.list fun x hx => ?_)
            rcases List.mem_cons.mp (List.mem_reverse.mp hx) with rfl | hx
            · exact .map (ih _ _ hold hsub)
            · exact hbefore x hx
      · cases hchange
    · cases hchange

/-! ### Values -/

-- The readers of values, which call each other, give short negative numbers with some fuel.
private structure ReadsShort (fuel : Nat) : Prop where
  value : ∀ {room cs v rest}, Toml.value fuel room cs = .ok (v, rest) → HasShortNegatives v
  items : ∀ {room done cs v rest}, (∀ x ∈ done, HasShortNegatives x) →
    Toml.items fuel room done cs = .ok (v, rest) → HasShortNegatives v
  pairs : ∀ {room es fixed cs v rest}, AllShort es →
    Toml.pairs fuel room es fixed cs = .ok (v, rest) → HasShortNegatives v
  pair : ∀ {room cs key v rest}, Toml.pair fuel room cs = .ok (key, v, rest) → HasShortNegatives v

private theorem hasShortNegatives_of_text {r : Option (List Char × List Char)}
    (h : TextProblem.require (r.map fun r => (Value.text (String.ofList r.1), r.2)) =
      .ok (v, rest)) : HasShortNegatives v := by
  obtain ⟨r, -, h⟩ := Option.map_eq_some_iff.mp (require_eq_ok.mp h)
  cases h
  exact .text _

private theorem value_succ (ih : ReadsShort fuel)
    (h : value (fuel + 1) room cs = .ok (v, rest)) : HasShortNegatives v := by
  unfold value at h
  dsimp only at h
  split at h
  · exact hasShortNegatives_of_text h
  · exact hasShortNegatives_of_text h
  · exact hasShortNegatives_of_text h
  · exact hasShortNegatives_of_text h
  · obtain ⟨room, -, h⟩ := Outcome.bind_eq_ok.mp h
    obtain ⟨cs, -, h⟩ := Outcome.bind_eq_ok.mp h
    split at h
    · cases h
      exact .list (List.forall_mem_nil _)
    · exact ih.items (List.forall_mem_nil _) h
  · obtain ⟨room, -, h⟩ := Outcome.bind_eq_ok.mp h
    split at h
    · cases h
      exact .map (List.forall_mem_nil _)
    · exact ih.pairs .nil h
  · split at h
    · cases h
      exact .bool _
    · cases h
      exact .bool _
    · split at h
      · obtain ⟨m, -, h⟩ := Option.map_eq_some_iff.mp (require_eq_ok.mp h)
        cases h
        exact .moment _
      · cases h
        exact .moment _
      · exact hasShortNegatives_of_number h

private theorem items_succ {done : List Value} (ih : ReadsShort fuel)
    (hdone : ∀ x ∈ done, HasShortNegatives x)
    (h : items (fuel + 1) room done cs = .ok (v, rest)) : HasShortNegatives v := by
  rw [items] at h
  obtain ⟨⟨w, after⟩, hread, h⟩ := Outcome.bind_eq_ok.mp h
  have hall : ∀ x ∈ w :: done, HasShortNegatives x :=
    List.forall_mem_cons.mpr ⟨ih.value hread, hdone⟩
  have hlist : HasShortNegatives (.list (w :: done).reverse) :=
    .list fun x hx => hall x (List.mem_reverse.mp hx)
  obtain ⟨cs, -, h⟩ := Outcome.bind_eq_ok.mp h
  split at h
  · cases h
    exact hlist
  · obtain ⟨cs, -, h⟩ := Outcome.bind_eq_ok.mp h
    split at h
    · cases h
      exact hlist
    · exact ih.items hall h
  · cases h

private theorem pairs_succ {fixed : List (List String)} (ih : ReadsShort fuel) (hes : AllShort es)
    (h : pairs (fuel + 1) room es fixed cs = .ok (v, rest)) : HasShortNegatives v := by
  rw [pairs] at h
  obtain ⟨⟨key, w, after⟩, hread, h⟩ := Outcome.bind_eq_ok.mp h
  dsimp only at h
  split at h
  · cases h
  · obtain ⟨es', hes', h⟩ := Outcome.bind_eq_ok.mp h
    have hall : AllShort es' :=
      keeps_changeTable? (keeps_addMember? _ (ih.pair hread)) _ _ _ hes (require_eq_ok.mp hes')
    split at h
    · cases h
      exact .map hall
    · exact ih.pairs hall h
    · cases h

private theorem pair_succ {key : List String} (ih : ReadsShort fuel)
    (h : pair (fuel + 1) room cs = .ok (key, v, rest)) : HasShortNegatives v := by
  rw [pair] at h
  obtain ⟨⟨key, after⟩, -, h⟩ := Outcome.bind_eq_ok.mp h
  dsimp only at h
  split at h
  · obtain ⟨⟨w, after⟩, hread, h⟩ := Outcome.bind_eq_ok.mp h
    cases h
    exact ih.value hread
  · cases h

private theorem readsShort (fuel : Nat) : ReadsShort fuel := by
  induction fuel with
  | zero =>
    refine ⟨fun h => ?_, fun _ h => ?_, fun _ h => ?_, fun h => ?_⟩
    · rw [value] at h
      cases h
    · rw [items] at h
      cases h
    · rw [pairs] at h
      cases h
    · rw [pair] at h
      cases h
  | succ fuel ih => exact ⟨value_succ ih, items_succ ih, pairs_succ ih, pair_succ ih⟩

/-! ### Documents -/

variable {d d' : Document}

private theorem growTables?_short {path : List String} (hd : AllShort d.entries)
    (h : d.growTables? path = some d') : AllShort d'.entries := by
  rw [Document.growTables?] at h
  split at h
  · cases h
  · obtain ⟨entries, hentries, h⟩ := Option.bind_eq_some_iff.mp h
    cases h
    exact keeps_changeTable? (keeps_growArray? _) _ _ _ hd hentries

private theorem openTable?_short {path : List String} (hd : AllShort d.entries)
    (h : d.openTable? path = some d') : AllShort d'.entries := by
  rw [Document.openTable?] at h
  split at h
  · cases h
  · obtain ⟨entries, hentries, h⟩ := Option.bind_eq_some_iff.mp h
    cases h
    have hsame : KeepsShort some := by
      intro es es' hes heq
      cases heq
      exact hes
    exact keeps_changeTable? hsame _ _ _ hd hentries

private theorem add?_short {key : List String} (hd : AllShort d.entries)
    (hv : HasShortNegatives v) (h : d.add? key v = some d') : AllShort d'.entries := by
  rw [Document.add?] at h
  dsimp only at h
  split at h
  · cases h
  · split at h
    · cases h
    · obtain ⟨entries, hentries, h⟩ := Option.bind_eq_some_iff.mp h
      cases h
      exact keeps_changeTable? (keeps_addMember? _ hv) _ _ _ hd hentries

private theorem header?_short {closing : String} {open? : List String → Option Document}
    (hopen : ∀ path d', open? path = some d' → AllShort d'.entries)
    (h : header? closing open? cs = some (d', rest)) : AllShort d'.entries := by
  rw [header?] at h
  obtain ⟨⟨path, after⟩, -, h⟩ := Option.bind_eq_some_iff.mp h
  obtain ⟨d, hd, h⟩ := Option.bind_eq_some_iff.mp h
  obtain ⟨after, -, h⟩ := Option.bind_eq_some_iff.mp h
  cases h
  exact hopen _ _ hd

private theorem statement_short (hd : AllShort d.entries)
    (h : statement d cs = .ok (d', rest)) : AllShort d'.entries := by
  unfold statement at h
  split at h
  · exact header?_short (fun _ _ => growTables?_short (d := d.settle) hd) (require_eq_ok.mp h)
  · exact header?_short (fun _ _ => openTable?_short (d := d.settle) hd) (require_eq_ok.mp h)
  · obtain ⟨⟨key, v, after⟩, hread, h⟩ := Outcome.bind_eq_ok.mp h
    obtain ⟨d, hadd, h⟩ := Outcome.bind_eq_ok.mp h
    cases h
    exact add?_short hd ((readsShort _).pair hread) (require_eq_ok.mp hadd)

private theorem lines_short (hd : AllShort d.entries) (h : lines fuel d cs = .ok d') :
    AllShort d'.entries := by
  induction fuel generalizing d cs with
  | zero =>
    rw [lines] at h
    cases h
  | succ fuel ih =>
    rw [lines] at h
    -- an empty line, or one with a comment, leaves the document as it is
    split at h
    all_goals
      obtain ⟨⟨next, after⟩, hstep, h⟩ := Outcome.bind_eq_ok.mp h
      have hnext : AllShort next.entries := by
        first
          | exact statement_short hd hstep
          | cases hstep
            exact hd
      obtain ⟨cs, -, h⟩ := Outcome.bind_eq_ok.mp h
      split at h
      · cases h
        exact hnext
      · exact ih hnext h
      · cases h

/-- The negative numbers in a document are short enough to be written. -/
theorem read_allShort {s : String} (h : read s = .ok es) : AllShort es := by
  rw [read] at h
  obtain ⟨d, hlines, h⟩ := Outcome.bind_eq_ok.mp h
  cases h
  exact lines_short .nil hlines

end TestSkeleton.Toml
