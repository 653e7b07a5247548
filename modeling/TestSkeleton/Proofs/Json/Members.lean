import TestSkeleton.Json.Reader
import TestSkeleton.Json.Writer

/-!
# Objects of texts read back

An object whose names and values are texts of plain characters, those that stand for themselves in
a JSON string, is read as it was written. The reader is followed member by member.
-/

namespace TestSkeleton.Json

open Text (shownHalf)

/-- Whether a character stands for itself in a JSON string. -/
def isPlain (c : Char) : Bool := 0x20 ≤ c.toNat && c.toNat < 0x7f && c != '"' && c != '\\'

/-- Whether all characters of a text stand for themselves. -/
def PlainText (s : String) : Prop := ∀ c ∈ s.toList, isPlain c = true

variable (half : Except Fault Char) {cs rest : List Char} {c : Char} {s : String}

/-- A plain character is no quote, no backslash and no control character. -/
theorem ne_of_isPlain (h : isPlain c = true) : c ≠ '"' ∧ c ≠ '\\' ∧ ¬ c.toNat < 0x20 := by
  simp only [isPlain, Bool.and_eq_true, decide_eq_true_eq, bne_iff_ne] at h
  exact ⟨h.1.2, h.2, Nat.not_lt.mpr h.1.1.1⟩

/-- A plain character is written as itself. -/
theorem stringChar_of_isPlain (h : isPlain c = true) : stringChar c = [c] := by
  obtain ⟨hquote, hback, hcontrol⟩ := ne_of_isPlain h
  have hne : ∀ c', c'.toNat < 0x20 → c ≠ c' := by
    rintro c' hc' rfl
    exact hcontrol hc'
  simp only [isPlain, Bool.and_eq_true, decide_eq_true_eq] at h
  rw [stringChar, if_neg hquote, if_neg hback, if_neg (hne _ (by decide)),
    if_neg (hne _ (by decide)), if_neg (hne _ (by decide)), if_neg (hne _ (by decide)),
    if_neg (hne _ (by decide)), if_pos ⟨h.1.1.1, h.1.1.2⟩]

/-- A text of plain characters stands between its quotes. -/
theorem toList_writeString (h : PlainText s) :
    (writeString s).toList = '"' :: s.toList ++ ['"'] := by
  have hflat : ∀ cs : List Char, (∀ c ∈ cs, isPlain c = true) → cs.flatMap stringChar = cs := by
    intro cs hcs
    induction cs with
    | nil => rfl
    | cons c cs ih =>
      rw [List.flatMap_cons, stringChar_of_isPlain (hcs c List.mem_cons_self),
        ih fun c hc => hcs c (List.mem_cons_of_mem _ hc)]
      rfl
  rw [writeString, String.toList_ofList, hflat _ h]

/-- Plain characters are read up to the quote after them. -/
theorem stringBody_of_isPlain (h : ∀ c ∈ cs, isPlain c = true) (done rest : List Char) :
    stringBody half done (cs ++ '"' :: rest) = .ok (done.reverse ++ cs, rest) := by
  induction cs generalizing done with
  | nil => rw [List.nil_append, stringBody, List.append_nil]
  | cons c cs ih =>
    obtain ⟨hquote, hback, hcontrol⟩ := ne_of_isPlain (h c List.mem_cons_self)
    rw [List.cons_append, stringBody.eq_6 half done c _ hquote
      (fun _ _ _ _ _ _ _ _ _ hc _ => hback hc) (fun _ _ _ _ _ hc _ => hback hc)
      (fun _ _ hc _ => hback hc), if_neg hcontrol,
      ih fun c hc => h c (List.mem_cons_of_mem _ hc)]
    simp

/-- A written text is read as a value. -/
theorem value_writeString (h : PlainText s) (fuel room : Nat) (rest : List Char) :
    value half (fuel + 1) room ((writeString s).toList ++ rest) = .ok (.text s, rest) := by
  rw [toList_writeString h]
  simp only [List.cons_append, List.append_assoc, List.nil_append]
  rw [value, stringBody_of_isPlain half h]
  simp [bind, Except.bind, pure, Except.pure]

private def memberText (t : String × String) : String := writeString t.1 ++ ":" ++ writeString t.2

private def entry (t : String × String) : Value × Value := (.text t.1, .text t.2)

private theorem members_memberText {t : String × String} (h : PlainText t.1 ∧ PlainText t.2)
    (fuel room : Nat) (done : List (Value × Value)) (rest : List Char) :
    members half (fuel + 2) room done ((memberText t).toList ++ rest) =
      match rest.dropWhile isSpace with
      | ',' :: rest => members half (fuel + 1) room (entry t :: done) (rest.dropWhile isSpace)
      | '\x7d' :: rest => .ok (.ofEntries (entry t :: done).reverse, rest)
      | _ => .error .malformed := by
  have hvalue := value_writeString half h.2 fuel room rest
  rw [toList_writeString h.2] at hvalue
  simp only [List.cons_append, List.append_assoc, List.nil_append] at hvalue
  rw [memberText, String.toList_append, String.toList_append, toList_writeString h.1,
    toList_writeString h.2]
  simp only [List.cons_append, List.append_assoc, List.nil_append]
  rw [members, stringBody_of_isPlain half h.1]
  simp [bind, Except.bind, pure, Except.pure, isSpace, hvalue, entry]
  rfl

private def membersText (ts : List (String × String)) : List Char :=
  [','].intercalate (ts.map fun t => (memberText t).toList)

private theorem membersText_cons_cons (t t' : String × String) (ts : List (String × String)) :
    membersText (t :: t' :: ts) =
      (memberText t).toList ++ ',' :: membersText (t' :: ts) := by
  rw [membersText, List.map_cons, List.map_cons, List.intercalate_cons_cons, List.append_assoc]
  rfl

private theorem exists_membersText (t : String × String) (ts : List (String × String)) :
    ∃ xs, membersText (t :: ts) = '"' :: xs := by
  have hquote : ∃ xs, (memberText t).toList = '"' :: xs := by
    rw [memberText, writeString, String.toList_append, String.toList_append, String.toList_ofList]
    exact ⟨_, rfl⟩
  obtain ⟨xs, hxs⟩ := hquote
  cases ts with
  | nil =>
    rw [membersText, List.map_singleton, List.intercalate_singleton]
    exact ⟨xs, hxs⟩
  | cons t' ts =>
    rw [membersText_cons_cons, hxs]
    exact ⟨_, rfl⟩

private theorem length_le_membersText (t : String × String) (ts : List (String × String)) :
    ts.length ≤ (membersText (t :: ts)).length := by
  induction ts generalizing t with
  | nil => exact Nat.zero_le _
  | cons t' ts ih =>
    have hle := ih t'
    rw [membersText_cons_cons, List.length_append, List.length_cons, List.length_cons]
    omega

private theorem members_membersText {t : String × String} {ts : List (String × String)}
    (h : ∀ t' ∈ t :: ts, PlainText t'.1 ∧ PlainText t'.2) (fuel room : Nat)
    (done : List (Value × Value)) (rest : List Char) :
    members half (fuel + ts.length + 2) room done (membersText (t :: ts) ++ '\x7d' :: rest) =
      .ok (.ofEntries (done.reverse ++ (t :: ts).map entry), rest) := by
  induction ts generalizing t done with
  | nil =>
    rw [membersText, List.map_singleton, List.intercalate_singleton,
      members_memberText half (h t List.mem_cons_self)]
    simp [isSpace]
  | cons t' ts ih =>
    have hrest := ih (fun t hmem => h t (List.mem_cons_of_mem _ hmem)) (entry t :: done)
    obtain ⟨xs, hxs⟩ := exists_membersText t' ts
    have hcomma : ∀ xs, List.dropWhile isSpace (',' :: xs) = ',' :: xs := fun _ => rfl
    have hquote : ∀ xs, List.dropWhile isSpace ('"' :: xs) = '"' :: xs := fun _ => rfl
    rw [membersText_cons_cons, List.append_assoc, List.length_cons, ← Nat.add_assoc,
      Nat.add_right_comm _ 1 2, members_memberText half (h t List.mem_cons_self), List.cons_append,
      hcomma]
    rw [hxs, List.cons_append] at hrest ⊢
    simp only [hquote]
    rw [hrest]
    simp

private theorem ofEntries_map_entry {ts : List (String × String)}
    (hnames : (ts.map Prod.fst).Nodup) : Value.ofEntries (ts.map entry) = .map (ts.map entry) := by
  have hinsert : ∀ (us : List (String × String)) (t : String × String), t.1 ∉ us.map Prod.fst →
      Value.insertEntry (us.map entry) (.text t.1) (.text t.2) = (us ++ [t]).map entry := by
    intro us t ht
    induction us with
    | nil => rfl
    | cons u us ih =>
      rw [List.map_cons, List.mem_cons, not_or] at ht
      have hne : Value.sameKey (.text u.1) (.text t.1) = false :=
        beq_eq_false_iff_ne.mpr (Ne.symm ht.1)
      rw [List.map_cons, entry, Value.insertEntry, hne, ih ht.2]
      rfl
  have hfold : ∀ (us ts : List (String × String)), ((us ++ ts).map Prod.fst).Nodup →
      (ts.map entry).foldl (fun es e => Value.insertEntry es e.1 e.2) (us.map entry) =
        (us ++ ts).map entry := by
    intro us ts hnodup
    induction ts generalizing us with
    | nil => rw [List.append_nil]; rfl
    | cons t ts ih =>
      rw [List.append_cons] at hnodup ⊢
      have ht : t.1 ∉ us.map Prod.fst := by
        rw [List.map_append, List.map_append, List.append_assoc] at hnodup
        intro hmem
        exact (List.nodup_append.mp hnodup).2.2 t.1 hmem t.1 (by simp) rfl
      rw [List.map_cons, List.foldl_cons, entry, hinsert us t ht]
      exact ih _ hnodup
  rw [Value.ofEntries]
  exact congrArg Value.map (hfold [] ts hnames)

private theorem writeMembers_dense (depth : Nat) (ts : List (String × String)) :
    writeMembers .dense depth (ts.map entry) = ts.map memberText := by
  induction ts with
  | nil => rfl
  | cons t ts ih =>
    rw [List.map_cons, entry, writeMembers, ih]
    rfl

private theorem toList_write (ts : List (String × String)) (hne : ts ≠ []) :
    (write .dense (.map (ts.map entry))).toList = '\x7b' :: (membersText ts ++ ['\x7d']) := by
  obtain ⟨t, ts, rfl⟩ := List.exists_cons_of_ne_nil hne
  rw [write, writeAt, writeMembers_dense]
  change ("\x7b" ++ "" ++ ("," ++ "").intercalate ((t :: ts).map memberText) ++ "" ++
    "\x7d").toList = _
  simp [membersText, String.toList_intercalate, Function.comp_def]

/-- An object of texts with different names is read as it was written. -/
theorem read_write {ts : List (String × String)} (h : ∀ t ∈ ts, PlainText t.1 ∧ PlainText t.2)
    (hnames : (ts.map Prod.fst).Nodup) (hne : ts ≠ []) :
    read (write .dense (.map (ts.map fun t => (.text t.1, .text t.2)))) =
      .ok (.map (ts.map fun t => (.text t.1, .text t.2))) := by
  change read (write .dense (.map (ts.map entry))) = .ok (.map (ts.map entry))
  rw [read, toList_write ts hne, ← ofEntries_map_entry hnames]
  obtain ⟨t, ts, rfl⟩ := List.exists_cons_of_ne_nil hne
  obtain ⟨fuel, hfuel⟩ : ∃ fuel,
      ('\x7b' :: (membersText (t :: ts) ++ ['\x7d'])).length = fuel + ts.length + 2 := by
    have hle := length_le_membersText t ts
    refine ⟨(membersText (t :: ts)).length - ts.length, ?_⟩
    rw [List.length_cons, List.length_append, List.length_singleton]
    omega
  have hmembers := members_membersText shownHalf h fuel 984 [] []
  obtain ⟨xs, hxs⟩ := exists_membersText t ts
  rw [hfuel]
  rw [hxs, List.cons_append] at hmembers ⊢
  have hbrace : List.dropWhile isSpace ('\x7b' :: '"' :: (xs ++ ['\x7d'])) =
      '\x7b' :: '"' :: (xs ++ ['\x7d']) := rfl
  have hquote : List.dropWhile isSpace ('"' :: (xs ++ ['\x7d'])) = '"' :: (xs ++ ['\x7d']) := rfl
  have hvalue : value shownHalf (fuel + ts.length + 2 + 1) greatestDepth
      ('\x7b' :: '"' :: (xs ++ ['\x7d'])) = .ok (.ofEntries ((t :: ts).map entry), []) := by
    simp only [greatestDepth, value, hquote]
    exact hmembers
  rw [hbrace, hvalue]
  rfl

end TestSkeleton.Json
