import TestSkeleton.Proofs.Java.Brackets

/-!
# Array types

Every way to write an array type: a dotted name, perhaps generic arguments, and brackets, dots and
blanks. The names of tests and the samples are made from the name and the number of dimensions
alone. The samples are looked for after packages have been taken away from the start of the text,
which does the same to the text as to the name.
-/

namespace TestSkeleton.Java

open Text

/-! ### Packages that need no import -/

/-- What can follow the name of a type: nothing, dots alone, or something that does not start as a
name goes on. -/
inductive FollowsName : String → Prop
  | nothing : FollowsName ""
  | dots : FollowsName "..."
  | opened {s : String} {c : Char} (h : c ∈ s.toList.head?)
    (hc : isBlank c = true ∨ c ∈ ['<', '[']) : FollowsName s

-- Nothing of a package can follow the name of a type, its last dot apart, which only dots start
-- with.
private theorem FollowsName.eq_of_suffix {package rest : String} (h : FollowsName rest)
    (hpackage : package ∈ ["java.lang", "java.util"]) {after : List Char}
    (hends : after <:+ (package ++ ".").toList) (hbegins : after <+: rest.toList) :
    after = [] ∨ after = ['.'] ∧ rest = "..." := by
  have hall : ∀ package ∈ ["java.lang", "java.util"], ∀ after ∈ (package ++ ".").toList.tails,
      (after = [] ∨ after = ['.'] ∨ ¬ after <+: "...".toList) ∧
        (after.head?.all fun c => !isBlank c && c != '<' && c != '[') = true := by decide
  obtain ⟨hdots, hhead⟩ := hall package hpackage after ((List.mem_tails _ _).mpr hends)
  cases h with
  | nothing => exact .inl (List.prefix_nil.mp hbegins)
  | dots =>
    rcases hdots with hnil | hdot | hnot
    · exact .inl hnil
    · exact .inr ⟨hdot, rfl⟩
    · exact absurd hbegins hnot
  | @opened _ c hc hopens =>
    cases after with
    | nil => exact .inl rfl
    | cons x xs =>
      obtain ⟨ys, hys⟩ := hbegins
      rw [← hys] at hc
      obtain rfl : x = c := Option.some.inj hc
      simp only [List.head?_cons, Option.all_some, Bool.and_eq_true, Bool.not_eq_true',
        bne_iff_ne] at hhead
      obtain ⟨⟨hblank, hopen⟩, hopen'⟩ := hhead
      rcases hopens with hopens | hopens
      · rw [hblank] at hopens
        cases hopens
      · simp [hopen, hopen'] at hopens

/-- A package is taken away from a name in the same way whatever follows the name, but for dots
right behind the package itself. -/
theorem dropStart_append {package name rest : String}
    (hpackage : package ∈ ["java.lang", "java.util"]) (hname : rest = "..." → name ≠ package)
    (hrest : FollowsName rest) :
    dropStart (package ++ ".") (name ++ rest) = dropStart (package ++ ".") name ++ rest := by
  have hstrip : stripStart? (package ++ ".") (name ++ rest) =
      (stripStart? (package ++ ".") name).map (· ++ rest) := by
    refine stripStart?_append fun after hstart hbegins => ?_
    rcases hrest.eq_of_suffix hpackage ⟨_, hstart.symm⟩ hbegins with hnil | ⟨rfl, hdots⟩
    · exact hnil
    · rw [String.toList_append] at hstart
      exact absurd (String.toList_inj.mp (List.append_cancel_right hstart.symm)) (hname hdots)
  rw [dropStart, dropStart, hstrip]
  cases stripStart? (package ++ ".") name <;> rfl

/-! ### Names of types -/

/-- What may stand between the dots of the name of a type. -/
def IsTypeSegment (s : String) : Prop :=
  s ≠ "" ∧ ∀ c ∈ s.toList, isBlank c = false ∧ c ∉ ['.', '<', '[', ']']

instance (s : String) : Decidable (IsTypeSegment s) :=
  have : Decidable (∀ c ∈ s.toList, isBlank c = false ∧ c ∉ ['.', '<', '[', ']']) :=
    List.decidableBAll _ _
  instDecidableAnd

/-- The name of a type, with the segments before the last one. -/
structure TypeName where
  qualifiers : List String := []
  simple : String
  isTypeSegment : ∀ s ∈ qualifiers ++ [simple], IsTypeSegment s

/-- The text of a name. -/
def TypeName.text (n : TypeName) : String := ".".intercalate (n.qualifiers ++ [n.simple])

/-- What is left of a name when packages have been taken away: still not empty, without blanks,
brackets and generic arguments, and without a dot at its end. -/
structure IsName (s : String) : Prop where
  ne_empty : s ≠ ""
  plain : ∀ c ∈ s.toList, isBlank c = false ∧ c ∉ ['<', '[', ']']
  last : s.toList.getLast? ≠ some '.'

namespace TypeName

/-- The last segment is what stands after the last dot. -/
theorem afterLast_text (n : TypeName) : afterLast '.' n.text = n.simple := by
  have hsplit : splitOn '.' n.text = n.qualifiers ++ [n.simple] := by
    have hdot : ∀ xs ∈ (n.qualifiers ++ [n.simple]).map String.toList, '.' ∉ xs := by
      intro xs hxs hmem
      obtain ⟨s, hs, rfl⟩ := List.mem_map.mp hxs
      exact ((n.isTypeSegment s hs).2 '.' hmem).2 (by decide)
    have hlist : n.text.toList =
        ['.'].intercalate ((n.qualifiers ++ [n.simple]).map String.toList) :=
      String.toList_intercalate
    rw [splitOn, hlist, List.splitOn_intercalate '.' hdot (by simp), List.map_map]
    simp only [Function.comp_def, String.ofList_toList, List.map_id']
  exact (around_last_of_splitOn hsplit).2

private theorem exists_text_eq (n : TypeName) : ∃ init, n.text = init ++ n.simple := by
  rw [text]
  by_cases h : n.qualifiers = []
  · exact ⟨"", by rw [h]; rfl⟩
  · exact ⟨_, by rw [String.intercalate_append_of_ne_nil h (List.cons_ne_nil _ _),
      String.intercalate_singleton]⟩

/-- The text of a type name is a name. -/
theorem isName_text (n : TypeName) : IsName n.text := by
  obtain ⟨init, htext⟩ := n.exists_text_eq
  obtain ⟨hne, hsimple⟩ := n.isTypeSegment n.simple (by simp)
  obtain ⟨xs, x, hlast⟩ := (List.eq_nil_or_concat' n.simple.toList).resolve_left
    fun h => hne (String.toList_eq_nil_iff.mp h)
  refine ⟨?_, fun c hc => ?_, ?_⟩
  · rw [htext]
    simp [hne]
  · by_cases hdot : c = '.'
    · rw [hdot]
      decide
    · rw [text, String.toList_intercalate, mem_intercalate_iff (by simpa using hdot)] at hc
      obtain ⟨part, hpart, hc⟩ := hc
      obtain ⟨s, hs, rfl⟩ := List.mem_map.mp hpart
      obtain ⟨hblank, hplain⟩ := (n.isTypeSegment s hs).2 c hc
      exact ⟨hblank, fun h => hplain (List.mem_cons_of_mem _ h)⟩
  · rw [htext, String.toList_append, hlast, ← List.append_assoc, List.getLast?_concat]
    intro hdot
    have hx : x ∈ n.simple.toList := by rw [hlast]; simp
    exact (hsimple x hx).2 (by rw [Option.some.inj hdot]; decide)

end TypeName

/-- Generic arguments, if there are any. -/
def typeArguments (arguments : Option String) : String :=
  (arguments.map fun s => "<" ++ s ++ ">").getD ""

/-- Without type arguments nothing is appended. -/
theorem append_typeArguments_none (s : String) : s ++ typeArguments none = s := String.append_empty

/-- A name without angle brackets is what is left of it with generic arguments. -/
theorem erase_append_typeArguments {name : String} (h : '<' ∉ name.toList)
    (arguments : Option String) : TypeText.erase (name ++ typeArguments arguments) = name := by
  cases arguments with
  | none => rw [append_typeArguments_none, TypeText.erase_of_not_mem h]
  | some s =>
    have hclosed : typeArguments (some s) = "<" ++ (s ++ ">") := String.append_assoc
    rw [hclosed, TypeText.erase_append_arguments h]

/-- Type arguments end in an angle bracket. -/
theorem getLast?_append_typeArguments (s arguments : String) :
    (s ++ typeArguments (some arguments)).toList.getLast? = some '>' := by
  have hclosed : typeArguments (some arguments) = "<" ++ arguments ++ ">" := rfl
  rw [hclosed, ← String.append_assoc, String.toList_append]
  exact List.getLast?_concat

namespace IsName

variable {name : String}

/-- Without a package a name is still one. -/
theorem dropStart (h : IsName name) {start : String} (hdot : start.toList.getLast? = some '.') :
    IsName (dropStart start name) := by
  rw [Java.dropStart]
  cases hstrip : stripStart? start name with
  | none => exact h
  | some t =>
    obtain rfl := stripStart?_eq_some.mp hstrip
    change IsName t
    have hne : t ≠ "" := by
      rintro rfl
      exact h.last (by simpa using hdot)
    refine ⟨hne, fun c hc => h.plain c (by simp [hc]), fun hlast => h.last ?_⟩
    rw [String.toList_append, List.getLast?_append, hlast]
    rfl

/-- Generic arguments are erased up to the name. -/
theorem erase_append (h : IsName name) (arguments : Option String) :
    TypeText.erase (name ++ typeArguments arguments) = name :=
  erase_append_typeArguments (fun hmem => (h.plain '<' hmem).2 (by decide)) arguments

/-- A name alone can be an element type. -/
theorem isElement (h : IsName name) : IsElement name := by
  have hne : name.toList ≠ [] := fun hnil => h.ne_empty (String.toList_eq_nil_iff.mp hnil)
  refine ⟨⟨⟨_, List.head?_eq_some_head hne, (h.plain _ (List.head_mem hne)).1⟩,
    ⟨_, List.getLast?_eq_some_getLast hne, (h.plain _ (List.getLast_mem hne)).1⟩⟩,
    fun x hx => ⟨?_, ?_⟩⟩
  · rintro rfl
    exact (h.plain ']' (List.mem_of_getLast? hx)).2 (by decide)
  · rintro rfl
    exact h.last hx

/-- A name with generic arguments can be an element type, whatever stands in them. -/
theorem isElement_append (h : IsName name) (arguments : Option String) :
    IsElement (name ++ typeArguments arguments) := by
  cases arguments with
  | none =>
    rw [append_typeArguments_none]
    exact h.isElement
  | some s =>
    have hlast := getLast?_append_typeArguments name s
    obtain ⟨x, hx, hblank⟩ := h.isElement.head
    refine ⟨⟨⟨x, ?_, hblank⟩, '>', hlast, by decide⟩, fun x hx => ?_⟩
    · rw [String.toList_append, List.head?_append, hx]
      rfl
    · rw [hlast, Option.mem_some] at hx
      rw [← hx]
      decide

end IsName

/-- What is written behind the name of an array type does not go on as the name. -/
theorem followsName (arguments : Option String) {gaps : List String}
    (hgaps : ∀ gap ∈ gaps, IsBlank gap) (isVarargs : Bool) :
    FollowsName (typeArguments arguments ++ (brackets gaps ++ dots isVarargs)) := by
  cases arguments with
  | some s => exact .opened (by simp [typeArguments] : '<' ∈ _) (.inr (by decide))
  | none =>
    have hnone : typeArguments none ++ (brackets gaps ++ dots isVarargs) =
        brackets gaps ++ dots isVarargs := String.empty_append
    rw [hnone]
    cases gaps with
    | nil =>
      cases isVarargs with
      | false => exact .nothing
      | true => exact .dots
    | cons gap gaps =>
      have htext : (brackets (gap :: gaps) ++ dots isVarargs).toList =
          gap.toList ++ '[' :: ']' :: (brackets gaps ++ dots isVarargs).toList := by
        simp [brackets]
      cases hgap : gap.toList with
      | nil => exact .opened (by rw [htext, hgap]; rfl : '[' ∈ _) (.inr (by decide))
      | cons x xs =>
        have hblank : isBlank x = true := hgaps gap (by simp) x (by simp [hgap])
        exact .opened (by rw [htext, hgap]; rfl : x ∈ _) (.inl hblank)

/-! ### Array types as they are written -/

/-- An array type as it may be written: a name, perhaps generic arguments, pairs of brackets with
the blanks before each of them, perhaps the dots of variable arguments, and blanks around it all. -/
structure ArrayText where
  name : TypeName
  arguments : Option String := none
  gaps : List String := []
  isVarargs : Bool := false
  before : String := ""
  after : String := ""
  isBlank_gaps : ∀ gap ∈ gaps, IsBlank gap
  isBlank_before : IsBlank before
  isBlank_after : IsBlank after

/-- Going around in two samples takes turns. -/
theorem cycle_pair (x y : String) (h : [x, y] ≠ []) (i : Int) :
    cycle [x, y] h i = if i % 2 = 0 then x else y := by
  rcases Int.emod_two_eq i with hi | hi <;> simp [cycle, hi]

namespace ArrayText

/-- The element type. -/
def element (t : ArrayText) : String := t.name.text ++ typeArguments t.arguments

/-- The whole text. -/
def text (t : ArrayText) : String :=
  t.before ++ (t.element ++ brackets t.gaps ++ dots t.isVarargs) ++ t.after

/-- The number of dimensions. -/
def dims (t : ArrayText) : Nat := t.gaps.length + t.isVarargs.toNat

/-- The name of the element type without the packages that need no import. -/
def shortName (t : ArrayText) : String :=
  dropStart "java.util." (dropStart "java.lang." t.name.text)

/-- The text of an array is split into its element and the number of its dimensions. -/
theorem arrayShape_text (t : ArrayText) : TypeText.arrayShape t.text = ⟨t.element, t.dims⟩ :=
  (t.name.isName_text.isElement_append t.arguments).arrayShape_eq t.isBlank_gaps t.isVarargs
    t.isBlank_before t.isBlank_after

/-- The token of an array is its simple name, with one word for each dimension. -/
theorem token_text (t : ArrayText) : TypeText.token t.text =
    capitalize t.name.simple ++ String.join (List.replicate t.dims "Array") := by
  have htrim : trim t.name.text = t.name.text := by
    have hempty : IsBlank "" := nofun
    simpa using t.name.isName_text.isElement.trim_eq hempty hempty
  rw [TypeText.token, t.arrayShape_text, element, t.name.isName_text.erase_append, htrim,
    t.name.afterLast_text]

/-- Dots right behind a package, which is no type. -/
def IsDottedPackage (t : ArrayText) : Prop :=
  t.name.text ∈ ["java.lang", "java.util", "java.lang.java.util"] ∧ t.arguments = none ∧
    t.gaps = [] ∧ t.isVarargs = true

private theorem eq_of_rest_eq_dots {t : ArrayText}
    (h : typeArguments t.arguments ++ (brackets t.gaps ++ dots t.isVarargs) = "...") :
    t.arguments = none ∧ t.gaps = [] ∧ t.isVarargs = true := by
  have hlist := congrArg String.toList h
  cases harguments : t.arguments with
  | some s => simp [harguments, typeArguments] at hlist
  | none =>
    cases hgaps : t.gaps with
    | cons gap gaps =>
      have hopen : '[' ∈ "...".toList := by
        rw [← h, hgaps]
        simp [brackets]
      exact absurd hopen (by decide)
    | nil =>
      cases hvarargs : t.isVarargs with
      | true => exact ⟨rfl, rfl, rfl⟩
      | false => simp [harguments, hgaps, hvarargs, typeArguments, brackets, dots] at hlist

/-- The short form of an array keeps its type arguments, its brackets and its dots. -/
theorem shortType_text {t : ArrayText} (ht : ¬ t.IsDottedPackage) :
    shortType t.text =
      t.shortName ++ typeArguments t.arguments ++ brackets t.gaps ++ dots t.isVarargs := by
  have hrest := followsName t.arguments t.isBlank_gaps t.isVarargs
  have hsolid := (t.name.isName_text.isElement_append t.arguments).isSolid_append t.gaps t.isVarargs
  have hname : typeArguments t.arguments ++ (brackets t.gaps ++ dots t.isVarargs) = "..." →
      t.name.text ∉ ["java.lang", "java.util", "java.lang.java.util"] :=
    fun hdots hmem => ht ⟨hmem, eq_of_rest_eq_dots hdots⟩
  have hlang : typeArguments t.arguments ++ (brackets t.gaps ++ dots t.isVarargs) = "..." →
      t.name.text ≠ "java.lang" := fun hdots h => hname hdots (by simp [h])
  have hutil : typeArguments t.arguments ++ (brackets t.gaps ++ dots t.isVarargs) = "..." →
      dropStart "java.lang." t.name.text ≠ "java.util" := by
    intro hdots h
    rw [dropStart] at h
    cases hstrip : stripStart? "java.lang." t.name.text with
    | none =>
      rw [hstrip] at h
      change t.name.text = "java.util" at h
      exact hname hdots (by simp [h])
    | some s =>
      rw [hstrip] at h
      obtain rfl : s = "java.util" := h
      exact hname hdots (by rw [stripStart?_eq_some.mp hstrip]; decide)
  have hlangDot : "java.lang." = "java.lang" ++ "." := by decide
  have hutilDot : "java.util." = "java.util" ++ "." := by decide
  rw [hlangDot] at hutil
  rw [shortType, shortName, text, element, hsolid.trim_eq t.isBlank_before t.isBlank_after,
    String.append_assoc, String.append_assoc, String.append_assoc, String.append_assoc, hlangDot,
    hutilDot, dropStart_append (by simp) hlang hrest, dropStart_append (by simp) hutil hrest]

/-- Without packages the name of an element type is still a name. -/
theorem isName_shortName (t : ArrayText) : IsName t.shortName :=
  (t.name.isName_text.dropStart (by decide)).dropStart (by decide)

/-- The samples of an array type are an empty array and `null`. -/
theorem samplePool_of_not_isDottedPackage {t : ArrayText} (ht : ¬ t.IsDottedPackage)
    (hdims : 0 < t.dims) :
    samplePool t.text = ["new " ++ t.shortName ++ "[0]" ++
      String.join (List.replicate (t.dims - 1) "[]"), "null"] := by
  have helement := t.isName_shortName.isElement_append t.arguments
  let gaps := t.gaps ++ List.replicate t.isVarargs.toNat ""
  have hlength : gaps.length = t.dims := by simp [gaps, dims]
  have hgaps : ∀ gap ∈ gaps, IsBlank gap := by
    intro gap hgap
    rcases List.mem_append.mp hgap with hgap | hgap
    · exact t.isBlank_gaps gap hgap
    · rw [List.eq_of_mem_replicate hgap]
      nofun
  have hends : (stripEnd? "[]"
      (t.shortName ++ typeArguments t.arguments ++ brackets gaps)).isSome = true := by
    obtain ⟨init, gap, hinit⟩ := (List.eq_nil_or_concat' gaps).resolve_left
      fun hnil => by simp [hnil] at hlength; omega
    rw [hinit, brackets_concat, ← String.append_assoc, ← String.append_assoc]
    exact Option.isSome_iff_exists.mpr ⟨_, stripEnd?_eq_some.mpr rfl⟩
  rw [samplePool, shortType_text ht, helement.bracketDots_eq, trimmedSamples, if_pos hends,
    helement.arrayShape_brackets hgaps, arraySamples, t.isName_shortName.erase_append, hlength]

/-- The samples of an array are a new array, empty in its first dimension, and `null`. -/
theorem samplePool_text (t : ArrayText)
    (hname : t.name.text ∉ ["java.lang", "java.util", "java.lang.java.util"])
    (hdims : 0 < t.dims) :
    samplePool t.text = ["new " ++ t.shortName ++ "[0]" ++
      String.join (List.replicate (t.dims - 1) "[]"), "null"] :=
  samplePool_of_not_isDottedPackage (fun ht => hname ht.1) hdims

/-- However an array type is written, its element type and the number of its dimensions are found
again: the name of a test has the last segment of the name and one word for each dimension, and the
samples take turns between an empty array of the name and `null`. -/
theorem array_decomposition (t : ArrayText) :
    TypeText.arrayShape t.text = ⟨t.element, t.dims⟩ ∧
      TypeText.token t.text =
        capitalize t.name.simple ++ String.join (List.replicate t.dims "Array") ∧
      (t.name.text ∉ ["java.lang", "java.util", "java.lang.java.util"] → 0 < t.dims →
        ∀ variant : Int, sample t.text variant =
          if variant % 2 = 0 then
            "new " ++ t.shortName ++ "[0]" ++ String.join (List.replicate (t.dims - 1) "[]")
          else "null") := by
  refine ⟨t.arrayShape_text, t.token_text, fun hname hdims variant => ?_⟩
  simp only [sample, t.samplePool_text hname hdims, cycle_pair]

-- a package is no type: with dots behind it, one of them goes away with the package
example : sample "java.lang..." 0 = "null" := by decide

/-- Arrays of maps from texts to arrays, with blanks and line ends between the brackets. -/
def maps : ArrayText where
  name := ⟨["java", "util"], "Map", by decide⟩
  arguments := some "String, int[]"
  gaps := ["", " \n"]
  isVarargs := true
  before := "\t"
  after := " "
  isBlank_gaps := by decide
  isBlank_before := by decide
  isBlank_after := by decide

/-- Brackets among the generic arguments stay there. -/
theorem array_decomposition_maps :
    maps.name.text ∉ ["java.lang", "java.util", "java.lang.java.util"] ∧ 0 < maps.dims ∧
      TypeText.arrayShape "\tjava.util.Map<String, int[]>[] \n[]... " =
        ⟨"java.util.Map<String, int[]>", 3⟩ ∧
      TypeText.token "\tjava.util.Map<String, int[]>[] \n[]... " = "MapArrayArrayArray" ∧
      sample "\tjava.util.Map<String, int[]>[] \n[]... " 4 = "new Map[0][][]" ∧
      sample "\tjava.util.Map<String, int[]>[] \n[]... " 7 = "null" := by
  have hname : maps.name.text ∉ ["java.lang", "java.util", "java.lang.java.util"] := by decide
  have hdims : 0 < maps.dims := by decide
  have htext : maps.text = "\tjava.util.Map<String, int[]>[] \n[]... " := by decide
  obtain ⟨hshape, htoken, hsamples⟩ := array_decomposition maps
  rw [htext] at hshape htoken hsamples
  exact ⟨hname, hdims, hshape.trans (by decide), htoken.trans (by decide),
    (hsamples hname hdims 4).trans (by decide), (hsamples hname hdims 7).trans (by decide)⟩

end ArrayText

end TestSkeleton.Java
