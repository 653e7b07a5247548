import TestSkeleton.Document.Display
import TestSkeleton.Json.Reader
import TestSkeleton.Proofs.Number.Length
import TestSkeleton.Proofs.Outcome

/-!
# Values that are read from JSON

A mapping that is read from JSON has texts as keys, whatever else the text has. What is read has a
text of its own: its whole numbers are short enough to be written, and its collections are nested
less deeply than a display allows.
-/

namespace TestSkeleton

namespace Json

variable {half : Except Fault Char} {P : Value → Prop} {entries done : List (Value × Value)}
  {cs rest : List Char} {v : Value} {fuel room : Nat}

/-- All keys of entries are texts. -/
def TextKeys (entries : List (Value × Value)) : Prop := ∀ e ∈ entries, ∃ key, e.1 = .text key

/-! ### Collections -/

-- Entries with texts as keys, the values of which have a property.
private def AllEntries (P : Value → Prop) (entries : List (Value × Value)) : Prop :=
  ∀ e ∈ entries, (∃ key, e.1 = .text key) ∧ P e.2

private theorem allEntries_nil : AllEntries P [] := fun _ he => absurd he List.not_mem_nil

private theorem AllEntries.cons {key : String} (h : AllEntries P entries) (hv : P v) :
    AllEntries P ((.text key, v) :: entries) := by
  intro e he
  rcases List.mem_cons.mp he with rfl | he
  · exact ⟨⟨key, rfl⟩, hv⟩
  · exact h e he

private theorem AllEntries.insertEntry {k : Value} (h : AllEntries P entries)
    (hk : ∃ key, k = .text key) (hv : P v) : AllEntries P (Value.insertEntry entries k v) := by
  intro e he
  rcases Value.mem_insertEntry he with he | ⟨hnew, hold⟩
  · exact h e he
  · rw [hnew]
    rcases hold with hold | ⟨w, hw⟩
    · exact ⟨hold ▸ hk, hv⟩
    · exact ⟨(h _ hw).1, hv⟩

private theorem allEntries_foldl (h : AllEntries P done) (hentries : AllEntries P entries) :
    AllEntries P (entries.foldl (fun es e => Value.insertEntry es e.1 e.2) done) := by
  induction entries generalizing done with
  | nil => exact h
  | cons e es ih =>
    obtain ⟨hk, hv⟩ := hentries e List.mem_cons_self
    exact ih (h.insertEntry hk hv) fun e he => hentries e (List.mem_cons_of_mem _ he)

-- Members make a mapping of which the keys are their names. What holds of every value that is read
-- with less fuel holds of its values.
private theorem members_allEntries
    (hvalue : ∀ fuel' cs w rest, fuel' < fuel → value half fuel' room cs = .ok (w, rest) → P w)
    (hdone : AllEntries P done) (h : members half fuel room done cs = .ok (v, rest)) :
    ∃ es, v = .map es ∧ AllEntries P es := by
  induction fuel generalizing done cs with
  | zero =>
    rw [members] at h
    cases h
  | succ fuel ih =>
    unfold members at h
    split at h
    · obtain ⟨⟨name, rest⟩, -, h⟩ := Outcome.bind_eq_ok.mp h
      dsimp only at h
      split at h
      · obtain ⟨⟨w, rest⟩, hread, h⟩ := Outcome.bind_eq_ok.mp h
        have hw : P w := hvalue _ _ _ _ (Nat.lt_succ_self fuel) hread
        dsimp only at h
        split at h
        · exact ih (fun _ _ _ _ hlt => hvalue _ _ _ _ (Nat.lt_succ_of_lt hlt)) (hdone.cons hw) h
        · cases h
          refine ⟨_, rfl, allEntries_foldl allEntries_nil fun e he => ?_⟩
          exact hdone.cons hw e (List.mem_reverse.mp he)
        · cases h
      · cases h
    · cases h

private theorem items_forall {done : List Value}
    (hvalue : ∀ fuel' cs w rest, fuel' < fuel → value half fuel' room cs = .ok (w, rest) → P w)
    (hdone : ∀ x ∈ done, P x) (h : items half fuel room done cs = .ok (v, rest)) :
    ∃ xs, v = .list xs ∧ ∀ x ∈ xs, P x := by
  induction fuel generalizing done cs with
  | zero =>
    rw [items] at h
    cases h
  | succ fuel ih =>
    rw [items] at h
    obtain ⟨⟨w, rest⟩, hread, h⟩ := Outcome.bind_eq_ok.mp h
    have hw : P w := hvalue _ _ _ _ (Nat.lt_succ_self fuel) hread
    have hall : ∀ x ∈ w :: done, P x := List.forall_mem_cons.mpr ⟨hw, hdone⟩
    dsimp only at h
    split at h
    · exact ih (fun _ _ _ _ hlt => hvalue _ _ _ _ (Nat.lt_succ_of_lt hlt)) hall h
    · cases h
      exact ⟨_, rfl, fun x hx => hall x (List.mem_reverse.mp hx)⟩
    · cases h

/-! ### What is read -/

-- The values of JSON that are no collections. A whole number has a text.
private inductive IsScalar : Value → Prop
  | null : IsScalar .null
  | bool (b : Bool) : IsScalar (.bool b)
  | int {i : Int} (h : Numeral.isLong i = false) : IsScalar (.int i)
  | float (x : Binary64) : IsScalar (.float x)
  | text (s : String) : IsScalar (.text s)

private theorem isScalar_of_number (h : number cs = .ok (v, rest)) : IsScalar v := by
  simp only [number] at h
  repeat' split at h
  all_goals cases h
  all_goals first
    | exact .float _
    | exact .int (Numeral.isLong_of_ofDecimalDigits? ‹_›)

private theorem value_cases (h : value half fuel room cs = .ok (v, rest)) :
    IsScalar v ∨ ∃ fuel' room', fuel = fuel' + 1 ∧ room = room' + 1 ∧
      (v = .list [] ∨ v = .map [] ∨ ∃ cs', items half fuel' room' [] cs' = .ok (v, rest) ∨
        members half fuel' room' [] cs' = .ok (v, rest)) := by
  cases fuel with
  | zero =>
    rw [value] at h
    cases h
  | succ fuel =>
    unfold value at h
    split at h
    · obtain ⟨_, -, h⟩ := Outcome.bind_eq_ok.mp h
      cases h
      exact .inl (.text _)
    · cases h
    · cases h
    · refine .inr ⟨_, _, rfl, rfl, ?_⟩
      split at h
      · cases h
        exact .inl rfl
      · exact .inr (.inr ⟨_, .inl h⟩)
    · refine .inr ⟨_, _, rfl, rfl, ?_⟩
      split at h
      · cases h
        exact .inr (.inl rfl)
      · exact .inr (.inr ⟨_, .inr h⟩)
    · left
      split at h
      · cases h
        exact .null
      · cases h
        exact .bool true
      · cases h
        exact .bool false
      · split at h
        · cases h
          exact .float _
        · cases h
          exact .float _
        · cases h
          exact .float _
        · exact isScalar_of_number h

private theorem value_allEntries
    (hvalue : ∀ fuel' room' cs w rest, fuel' < fuel → room = room' + 1 →
      value half fuel' room' cs = .ok (w, rest) → P w)
    (h : value half fuel room cs = .ok (v, rest)) (hentries : v.entries? = some entries) :
    AllEntries P entries := by
  rcases value_cases h with hscalar | ⟨fuel', room', rfl, rfl, rfl | rfl | ⟨cs', hitems | hmembers⟩⟩
  · cases hscalar <;> cases hentries
  · cases hentries
  · cases hentries
    exact allEntries_nil
  · obtain ⟨xs, rfl, -⟩ := items_forall (P := fun _ => True) (fun _ _ _ _ _ _ => trivial)
      (List.forall_mem_nil _) hitems
    cases hentries
  · obtain ⟨es, rfl, hall⟩ := members_allEntries (P := P) (fun _ _ _ _ hlt =>
      hvalue _ _ _ _ _ (Nat.lt_succ_of_lt hlt) rfl) allEntries_nil hmembers
    cases hentries
    exact hall

private theorem value_of_read {s : String} (h : read s half = .ok v) :
    ∃ rest, value half (s.toList.length + 1) greatestDepth (s.toList.dropWhile isSpace) =
      .ok (v, rest) := by
  rw [read] at h
  obtain ⟨⟨w, rest⟩, hvalue, h⟩ := Outcome.bind_eq_ok.mp h
  dsimp only at h
  split at h
  · cases h
    exact ⟨rest, hvalue⟩
  · cases h

/-- The keys of a mapping that is read are texts. -/
theorem read_textKeys {s : String} (h : read s half = .ok v)
    (hentries : v.entries? = some entries) :
    TextKeys entries := by
  obtain ⟨rest, hvalue⟩ := value_of_read h
  intro e he
  exact (value_allEntries (P := fun _ => True) (fun _ _ _ _ _ _ _ _ => trivial) hvalue hentries
    e he).1

/-! ### Texts of what is read -/

private theorem itemsFault?_eq_none {n : Nat} {xs : List Value} :
    Value.itemsFault? n xs = none ↔ ∀ x ∈ xs, x.faultWithin? n = none := by
  induction xs with
  | nil => simp [Value.itemsFault?]
  | cons x xs ih => rw [Value.itemsFault?, Option.or_eq_none_iff, ih, List.forall_mem_cons]

private theorem entriesFault?_of_allEntries {n : Nat}
    (h : AllEntries (fun v => v.faultWithin? n = none) entries) :
    Value.entriesFault? n entries = none := by
  induction entries with
  | nil => rw [Value.entriesFault?]
  | cons e es ih =>
    obtain ⟨k, v⟩ := e
    obtain ⟨⟨key, rfl⟩, hv⟩ : (∃ key, k = .text key) ∧ v.faultWithin? n = none :=
      h _ List.mem_cons_self
    rw [Value.entriesFault?, ih fun e he => h e (List.mem_cons_of_mem _ he), hv]
    simp [Value.faultWithin?]

private theorem faultWithin?_of_value {n : Nat} (h : value half fuel room cs = .ok (v, rest))
    (hroom : room ≤ n) : v.faultWithin? n = none := by
  induction fuel using Nat.strongRecOn generalizing room cs v rest n with
  | ind fuel ih =>
    rcases value_cases h with hscalar | ⟨fuel', room', rfl, rfl, hcollection⟩
    · cases hscalar with
      | int hshort => simp [Value.faultWithin?, hshort]
      | _ => simp [Value.faultWithin?]
    · obtain ⟨n, rfl⟩ : ∃ m, n = m + 1 := ⟨n - 1, by omega⟩
      have hinner (fuel'' : Nat) (cs : List Char) (w : Value) (rest : List Char)
          (hfuel : fuel'' < fuel') (hw : value half fuel'' room' cs = .ok (w, rest)) :
          w.faultWithin? n = none :=
        ih fuel'' (by omega) hw (by omega)
      rcases hcollection with rfl | rfl | ⟨cs', hitems | hmembers⟩
      · rw [Value.faultWithin?, Value.itemsFault?]
      · rw [Value.faultWithin?, Value.entriesFault?]
      · obtain ⟨xs, rfl, hall⟩ := items_forall hinner (List.forall_mem_nil _) hitems
        rw [Value.faultWithin?]
        exact itemsFault?_eq_none.mpr hall
      · obtain ⟨es, rfl, hall⟩ := members_allEntries hinner allEntries_nil hmembers
        rw [Value.faultWithin?]
        exact entriesFault?_of_allEntries hall

/-- The values of a mapping that is read have texts. -/
theorem exists_shown_of_read {s : String} (h : read s half = .ok v)
    (hentries : v.entries? = some entries) {e : Value × Value} (he : e ∈ entries) :
    ∃ text, e.2.shown = .ok text := by
  obtain ⟨rest, hvalue⟩ := value_of_read h
  have hall : AllEntries (fun w => w.faultWithin? Value.greatestDepth = none) entries := by
    refine value_allEntries (fun fuel room cs w rest _ hroom hw => ?_) hvalue hentries
    apply faultWithin?_of_value hw
    rw [greatestDepth] at hroom
    rw [Value.greatestDepth]
    omega
  refine ⟨e.2.display, ?_⟩
  rw [Value.shown, Value.fault?, (hall e he).2]

end Json
end TestSkeleton
