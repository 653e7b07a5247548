import TestSkeleton.Proofs.Manifest.Schema

/-!
# Reports on manifests

What a failure of decoding says about the document. A problem of the manifest is reported only where
the document does not follow the schema, and a fault is met only where a value that goes into a text
has none. Nothing else keeps a document from being decoded.
-/

namespace TestSkeleton.Manifest

open Java
open Outcome (FirstWith)

/-- What a failure blames a document for: a problem of a manifest says that the document does not
follow a schema, a fault that a value has no text. -/
inductive Blames (path : Path) (schema texts : Prop) : Failure → Prop
  | problem {problem : ManifestProblem} (h : ¬ schema) :
      Blames path schema texts (.manifest path problem)
  | fault {f : Fault} (h : ¬ texts) : Blames path schema texts (.fault f)

variable {path : Path} {owner : String} {v : Value} {entries : Entries} {e : Failure}
  {schema texts schema' texts' : Prop} {problem : ManifestProblem}

/-- What is blamed on a part is blamed on the whole. -/
theorem Blames.mono (h : Blames path schema texts e) (hschema : schema' → schema)
    (htexts : texts' → texts) : Blames path schema' texts' e := by
  cases h with
  | problem h => exact .problem fun h' => h (hschema h')
  | fault h => exact .fault fun h' => h (htexts h')

/-- What is blamed on the entries of a mapping is blamed on the mapping. -/
theorem Blames.of_entries {S T : Entries → Prop} (hentries : v.entries? = some entries)
    (h : Blames path (S entries) (T entries) e) :
    Blames path (∃ es, v.entries? = some es ∧ S es) (∀ es, v.entries? = some es → T es) e := by
  apply h.mono
  · rintro ⟨es, hes, hS⟩
    rw [hentries] at hes
    cases hes
    exact hS
  · intro hT
    exact hT entries hentries

/-! ### Parts of a document -/

section Parts

variable {P T : Value → Prop} {key : String} {items : List Value}

private theorem asMapping_blames {S : Entries → Prop}
    (h : asMapping (.manifest path problem) v = .error e) :
    Blames path (∃ es, v.entries? = some es ∧ S es) texts e := by
  obtain rfl := asMapping_eq_error h
  apply Blames.problem
  rintro ⟨es, hes, -⟩
  rw [asMapping_eq_ok.mpr hes] at h
  cases h

private theorem nameOf_blames (h : nameOf (.manifest path problem) entries = .error e) :
    Blames path (Named entries) texts e := by
  obtain rfl := nameOf_eq_error h
  apply Blames.problem
  rintro ⟨name, hname, hne⟩
  rw [nameOf_eq_ok.mpr ⟨hname, hne⟩] at h
  cases h

private theorem shown_blames (h : Failure.ofFault v.shown = .error e) :
    Blames path schema (∃ text, v.shown = .ok text) e := by
  cases hshown : v.shown with
  | ok text => rw [hshown] at h; cases h
  | error f =>
    rw [hshown] at h
    cases h
    apply Blames.fault
    rintro ⟨text, htext⟩
    cases htext

private theorem textOf_blames {default : String} (h : textOf entries key default = .error e) :
    Blames path schema (TextUnder entries key) e := by
  rw [textOf] at h
  split at h
  · cases h
  · next v hkey => exact (shown_blames h).mono id fun htext => htext v hkey

private theorem listOf_blames (h : listOf (.manifest path problem) entries key = .error e) :
    Blames path (ListUnder P entries key) texts e := by
  obtain rfl := listOf_eq_error h
  apply Blames.problem
  intro hlist
  rw [listOf] at h
  split at h
  · cases h
  · next v hkey =>
    split at h
    · cases h
    · next hgiven =>
      obtain ⟨items, hitems, -⟩ := hlist v hkey (by simpa using hgiven)
      rw [hitems] at h
      cases h

private theorem mapM_blames {β : Type} {g : Value → Except Failure β}
    (hitems : GivesItems entries key items) (h : items.mapM g = .error e)
    (hg : ∀ x e, g x = .error e → Blames path (P x) (T x) e) :
    Blames path (ListUnder P entries key) (ItemsUnder T entries key) e := by
  obtain ⟨before, x, after, hsplit, -, hx⟩ := Outcome.mapM_eq_error.mp h
  have hmem : x ∈ items := hsplit ▸ List.mem_append_right _ List.mem_cons_self
  -- a list that has an item was not left out, and did not count as empty
  cases hitems with
  | leftOut _ => cases hmem
  | empty _ _ => cases hmem
  | @listed list _ hkey hgiven hlisted =>
    apply (hg x e hx).mono
    · intro hlist
      obtain ⟨items, hitems, hP⟩ := hlist list hkey hgiven
      rw [hlisted] at hitems
      cases hitems
      exact hP x hmem
    · intro htexts
      exact htexts list _ hkey hlisted x hmem

end Parts

/-! ### Documents -/

private theorem parameter_blames (h : parameter path owner v = .error e) :
    Blames path (ParameterSchema v) (ParameterTexts v) e := by
  rw [parameter] at h
  rcases Outcome.bind_eq_error.mp h with h | ⟨es, hes, h⟩
  · exact asMapping_blames h
  replace hes := asMapping_eq_ok.mp hes
  apply Blames.of_entries hes
  split at h
  · next name type hname htype =>
    rcases Outcome.bind_eq_error.mp h with h | ⟨_, -, h⟩
    · exact (shown_blames h).mono id fun htexts => htexts.1 name hname
    rcases Outcome.bind_eq_error.mp h with h | ⟨_, -, h⟩
    · exact (shown_blames h).mono id fun htexts => htexts.2 type htype
    · cases h
  · next hmissing =>
    cases h
    apply Blames.problem
    rintro ⟨hname, htype⟩
    obtain ⟨name, hname⟩ := Option.isSome_iff_exists.mp hname
    obtain ⟨type, htype⟩ := Option.isSome_iff_exists.mp htype
    exact hmissing name type hname htype

private theorem visibility_blames {name : String}
    (h : Manifest.visibility path owner name entries = .error e) :
    Blames path (VisibilitySchema entries) (TextUnder entries "visibility") e := by
  rw [Manifest.visibility] at h
  rcases Outcome.bind_eq_error.mp h with h | ⟨text, htext, h⟩
  · exact textOf_blames h
  dsimp only at h
  split at h
  · cases h
  · next hword =>
    cases h
    apply Blames.problem
    intro hschema
    -- without an entry the word is a visibility, so there is an entry
    cases textOf_eq_ok.mp htext with
    | leftOut _ => exact absurd hword (by decide +kernel)
    | shown hkey htext =>
      obtain ⟨visibility, hvisibility⟩ := hschema _ _ hkey htext
      rw [hvisibility, Visibility.ofWord?_word] at hword
      cases hword

private theorem method_blames (h : method path owner v = .error e) :
    Blames path (MethodSchema v) (MethodTexts v) e := by
  rw [method] at h
  rcases Outcome.bind_eq_error.mp h with h | ⟨es, hes, h⟩
  · exact asMapping_blames h
  apply Blames.of_entries (asMapping_eq_ok.mp hes)
  rcases Outcome.bind_eq_error.mp h with h | ⟨name, -, h⟩
  · exact (nameOf_blames h).mono And.left id
  rcases Outcome.bind_eq_error.mp h with h | ⟨_, -, h⟩
  · exact (visibility_blames h).mono (fun h => h.2.1) And.left
  rcases Outcome.bind_eq_error.mp h with h | ⟨items, hitems, h⟩
  · exact (listOf_blames h).mono (fun h => h.2.2) id
  rcases Outcome.bind_eq_error.mp h with h | ⟨_, -, h⟩
  · have hblames := mapM_blames (listOf_eq_ok.mp hitems) h fun _ _ => parameter_blames
    exact hblames.mono (fun h => h.2.2) fun h => h.2.2
  rcases Outcome.bind_eq_error.mp h with h | ⟨_, -, h⟩
  · exact (textOf_blames h).mono id fun h => h.2.1
  · cases h

private theorem classInfo_blames (h : classInfo path v = .error e) :
    Blames path (ClassSchema v) (ClassTexts v) e := by
  rw [classInfo] at h
  rcases Outcome.bind_eq_error.mp h with h | ⟨es, hes, h⟩
  · exact asMapping_blames h
  apply Blames.of_entries (asMapping_eq_ok.mp hes)
  rcases Outcome.bind_eq_error.mp h with h | ⟨name, -, h⟩
  · exact (nameOf_blames h).mono And.left id
  rcases Outcome.bind_eq_error.mp h with h | ⟨items, hitems, h⟩
  · exact (listOf_blames h).mono (fun h => h.2.1) id
  rcases Outcome.bind_eq_error.mp h with h | ⟨_, -, h⟩
  · have hblames := mapM_blames (listOf_eq_ok.mp hitems) h fun _ _ => method_blames
    exact hblames.mono (fun h => h.2.1) And.left
  rcases Outcome.bind_eq_error.mp h with h | ⟨items', hitems', h⟩
  · exact (listOf_blames h).mono (fun h => h.2.2) id
  rcases Outcome.bind_eq_error.mp h with h | ⟨_, -, h⟩
  · have hblames := mapM_blames (listOf_eq_ok.mp hitems') h fun _ _ => parameter_blames
    exact hblames.mono (fun h => h.2.2) And.right
  · cases h

/-- A document that is not decoded does not follow the schema, or lacks a text. -/
theorem decode_blames (h : decode path v = .error e) :
    Blames path (FollowsSchema v) (HasTexts v) e := by
  have hnull : v ≠ .null := by
    rintro rfl
    cases h
  have hmapping : FollowsSchema v →
      ∃ entries, v.entries? = some entries ∧ ListUnder ClassSchema entries "classes" :=
    fun hschema => hschema.resolve_left hnull
  rw [decode_of_ne_null hnull] at h
  rcases Outcome.bind_eq_error.mp h with h | ⟨es, hes, h⟩
  · exact (asMapping_blames h).mono hmapping id
  apply Blames.mono (.of_entries (asMapping_eq_ok.mp hes) _) hmapping id
  rcases Outcome.bind_eq_error.mp h with h | ⟨items, hitems, h⟩
  · exact listOf_blames h
  · exact mapM_blames (listOf_eq_ok.mp hitems) h fun _ _ => classInfo_blames

/-- A document is decoded if and only if it follows the schema and every value that goes into a text
has one, and then to the classes that it describes, in the order of its lists. All others are
reported under the path of the manifest, unless a value without a text comes first. -/
theorem decode_follows_schema (path : Path) (v : Value) :
    ((∃ classes, decode path v = .ok classes) ↔ FollowsSchema v ∧ HasTexts v) ∧
      (∀ classes, decode path v = .ok classes ↔ Describes v classes) ∧
      (∀ e, decode path v = .error e → (∃ problem, e = .manifest path problem ∧ ¬ FollowsSchema v) ∨
        ∃ f, e = .fault f ∧ ¬ HasTexts v) ∧
      ∀ f, decode path v = .error (.fault f) ↔ ∃ entries items, v.entries? = some entries ∧
        GivesItems entries "classes" items ∧
        FirstWith (classInfo path) (ClassFault path · f) items := by
  refine ⟨⟨?_, ?_⟩, fun _ => decode_eq_ok, ?_, ?_⟩
  · rintro ⟨classes, h⟩
    exact (decode_eq_ok.mp h).followsSchema
  · rintro ⟨hschema, htexts⟩
    cases h : decode path v with
    | ok classes => exact ⟨classes, rfl⟩
    | error e =>
      cases decode_blames h with
      | problem hnot => exact absurd hschema hnot
      | fault hnot => exact absurd htexts hnot
  · intro e h
    cases decode_blames h with
    | problem hnot => exact .inl ⟨_, rfl, hnot⟩
    | fault hnot => exact .inr ⟨_, rfl, hnot⟩
  · intro f
    simp only [decode_eq_fault, listOf_eq_ok]

/-- A visibility that is no text but a whole number with too many digits is not reported. -/
theorem decode_long_visibility :
    ¬ ∀ (path : Path) (v : Value), (∃ classes, decode path v = .ok classes) ∨
      ∃ problem, decode path v = .error (.manifest path problem) := by
  intro h
  let long : Value := .int (Int.ofNat (Nat.pow 16 3600))
  let m : Value := .map [(.text "name", .text "f"), (.text "visibility", long)]
  let c : Value := .map [(.text "name", .text "A"), (.text "methods", .list [m])]
  let document : Value := .map [(.text "classes", .list [c])]
  have hlong : long.shown = .error .badValue := by
    have hfault : long.fault? = some .badValue := by decide +kernel
    rw [Value.shown, hfault]
  have hmethod : MethodFault {} "A" m .badValue :=
    .visibility rfl (nameOf_eq_ok.mpr ⟨rfl, by decide⟩) ⟨long, rfl, hlong⟩
  have hclass : ClassFault {} c .badValue :=
    .method rfl (nameOf_eq_ok.mpr ⟨rfl, by decide⟩) rfl ⟨[], m, [], rfl, nofun, hmethod⟩
  have hdecode : decode {} document = .error (.fault .badValue) :=
    decode_eq_fault.mpr ⟨_, _, rfl, rfl, [], c, [], rfl, nofun, hclass⟩
  rcases h {} document with ⟨classes, hok⟩ | ⟨problem, hproblem⟩
  · rw [hdecode] at hok
    cases hok
  · rw [hdecode] at hproblem
    cases hproblem

end TestSkeleton.Manifest
