import TestSkeleton.Message.Argument
import TestSkeleton.Message.FieldStyle

/-!
# Templates

A template is text with fields in braces; doubled braces stand for single ones. A field names an
argument, steps into it by `.member` and `[item]`, may convert it to text by `!s`, `!r` or `!a`, and
may give a style after a colon, which can hold fields itself. Fields are filled in from left to
right, so what is wrong with a template shows only when its place is reached.

The members listed here are data of the arguments. Whatever else an environment lets a template
reach, operations of its objects among them, is a parameter of filling in, `Outside`.

Templates of `stubwright-needle`, as the message bus fills them in; specification
`SPEC_FULL.md:221–224`.
-/

namespace TestSkeleton.Template

open Text

/-- A field as written between braces. -/
structure Field where
  name : List Char
  conversion : Option Char := none
  style : List Char := []
deriving DecidableEq, Repr, Inhabited

/-- A piece of a template. Nothing follows a malformed piece. -/
inductive Piece where
  | char (c : Char)
  | field (f : Field)
  | malformed
deriving DecidableEq, Repr, Inhabited

/-- The name of a field, up to a brace, a colon or an exclamation mark outside square brackets, and
the rest from there on. -/
def takeName (inBrackets : Bool) : List Char → List Char × List Char
  | [] => ([], [])
  | c :: rest =>
    if !inBrackets && ['\x7b', '\x7d', ':', '!'].contains c then ([], c :: rest)
    else
      let inside := if inBrackets then c != ']' else c == '['
      let more := takeName inside rest
      (c :: more.1, more.2)

/-- The style of a field, up to the closing brace that matches no opening brace in it, and the rest
after that brace. -/
def takeStyle (opened : Nat) : List Char → Option (List Char × List Char)
  | [] => none
  | c :: rest =>
    if c = '\x7d' then
      match opened with
      | 0 => some ([], rest)
      | n + 1 => (takeStyle n rest).map fun more => (c :: more.1, more.2)
    else
      (takeStyle (if c = '\x7b' then opened + 1 else opened) rest).map fun more =>
        (c :: more.1, more.2)

/-- A field after its opening brace, and the rest after its closing brace. -/
def takeField (cs : List Char) : Option (Field × List Char) :=
  let (name, rest) := takeName false cs
  match rest with
  | '\x7d' :: rest => some ({ name }, rest)
  | ':' :: rest => (takeStyle 0 rest).map fun (style, rest) => ({ name, style }, rest)
  | '!' :: conversion :: '\x7d' :: rest => some ({ name, conversion := some conversion }, rest)
  | '!' :: conversion :: ':' :: rest =>
    (takeStyle 0 rest).map fun (style, rest) =>
      ({ name, conversion := some conversion, style }, rest)
  | _ => none

/-- Nothing is added behind the name of a field. -/
theorem length_takeName (b : Bool) (cs : List Char) : (takeName b cs).2.length ≤ cs.length := by
  induction cs generalizing b with
  | nil => simp [takeName]
  | cons c rest ih =>
    rw [takeName]
    split
    · simp
    · exact Nat.le_succ_of_le (ih _)

/-- Nothing is added behind the style of a field. -/
theorem length_takeStyle {n : Nat} {cs : List Char} {r : List Char × List Char}
    (h : takeStyle n cs = some r) : r.2.length ≤ cs.length := by
  induction cs generalizing n r with
  | nil => simp [takeStyle] at h
  | cons c rest ih =>
    unfold takeStyle at h
    split at h
    · split at h
      · simp only [Option.some.injEq] at h; subst h; simp
      · obtain ⟨r', hr', rfl⟩ := Option.map_eq_some_iff.mp h
        have := ih hr'
        simp only [List.length_cons]; omega
    · obtain ⟨r', hr', rfl⟩ := Option.map_eq_some_iff.mp h
      have := ih hr'
      simp only [List.length_cons]; omega

/-- Nothing is added behind a field. -/
theorem length_takeField {cs : List Char} {r : Field × List Char} (h : takeField cs = some r) :
    r.2.length ≤ cs.length := by
  have hn := length_takeName false cs
  simp only [takeField] at h
  split at h
  · rename_i rest heq
    simp only [Option.some.injEq] at h; subst h
    rw [heq] at hn; simp at hn ⊢; omega
  · rename_i rest heq
    obtain ⟨r', hr', rfl⟩ := Option.map_eq_some_iff.mp h
    have := length_takeStyle hr'
    rw [heq] at hn; simp at hn ⊢; omega
  · rename_i rest heq
    simp only [Option.some.injEq] at h; subst h
    rw [heq] at hn; simp at hn ⊢; omega
  · rename_i rest heq
    obtain ⟨r', hr', rfl⟩ := Option.map_eq_some_iff.mp h
    have := length_takeStyle hr'
    rw [heq] at hn; simp at hn ⊢; omega
  · simp at h

/-- The pieces of a template. -/
def pieces : List Char → List Piece
  | [] => []
  | '\x7b' :: '\x7b' :: rest => .char '\x7b' :: pieces rest
  | '\x7d' :: '\x7d' :: rest => .char '\x7d' :: pieces rest
  | '\x7d' :: _ => [.malformed]
  | '\x7b' :: rest =>
    match h : takeField rest with
    | some (f, rest') =>
      have : rest'.length ≤ rest.length := length_takeField h
      .field f :: pieces rest'
    | none => [.malformed]
  | c :: rest => .char c :: pieces rest
termination_by cs => cs.length
decreasing_by all_goals simp only [List.length_cons]; omega

/-- A step into an argument. Nothing follows a malformed step. -/
inductive Step where
  | member (name : String)
  | index (i : Nat)
  | item (key : String)
  | malformed
deriving DecidableEq, Repr, Inhabited

/-- What stands between square brackets: a number if it has only digits, else a key. -/
def bracketStep (cs : List Char) : Step :=
  if cs.isEmpty then .malformed
  else
    let lead := cs.takeWhile fun c => (digitValue? c).isSome
    let n := lead.foldl (fun n c => n * 10 + (digitValue? c).getD 0) 0
    if greatestNumber < n then .malformed
    else if lead.length = cs.length then .index n
    else .item (String.ofList cs)

/-- The steps after the name of an argument. -/
def steps : List Char → List Step
  | [] => []
  | '.' :: rest =>
    let name := rest.takeWhile fun c => c != '.' && c != '['
    if name.isEmpty then [.malformed]
    else .member (String.ofList name) :: steps (rest.dropWhile fun c => c != '.' && c != '[')
  | '[' :: rest =>
    let after := rest.dropWhile (· != ']')
    if after.isEmpty then [.malformed]
    else bracketStep (rest.takeWhile (· != ']')) :: steps after.tail
  | _ => [.malformed]
termination_by cs => cs.length
decreasing_by
  · have := (List.dropWhile_sublist (l := rest) fun c => c != '.' && c != '[').length_le
    simp only [List.length_cons]; omega
  · have := (List.dropWhile_sublist (l := rest) (· != ']')).length_le
    simp only [List.length_cons, List.length_tail]; omega

/-! ### Steps -/

private def valueMember? (v : Value) (name : String) : Option Value :=
  match v with
  | .int i => number i
  | .bool b => number (if b then 1 else 0)
  | .float x =>
    match name with
    | "real" => some (.float x)
    | "imag" => some (.float (Binary64.zero false))
    | _ => none
  | _ => none
where
  number (i : Int) : Option Value :=
    match name with
    | "real" | "numerator" => some (.int i)
    | "imag" => some (.int 0)
    | "denominator" => some (.int 1)
    | _ => none

private def pathMember? (p : Path) (name : String) : Option Argument :=
  let text (s : String) : Option Argument := some (.value (.text s))
  match name with
  | "name" => text p.name
  | "stem" => text p.stem
  | "suffix" => text p.suffix
  | "suffixes" => some (.value (.list (p.suffixes.map .text)))
  | "parent" => some (.path p.parent)
  | "parents" => some (.ancestors p)
  | "parts" => some (.value (.tuple (p.parts.map .text)))
  | "anchor" | "root" => text p.anchor.text
  | "drive" => text ""
  | _ => none

private def failureMember? (f : Failure) (name : String) : Option Argument :=
  let value (v : Value) : Option Argument := some (.value v)
  let parts := value (.tuple (Argument.failureParts f))
  match f with
  | .batchSizes bodies targets =>
    match name with
    | "args" => parts
    | "body_count" => value (.int bodies)
    | "target_count" => value (.int targets)
    | _ => none
  | .manifest p _ =>
    match name with
    | "args" => parts
    | "path" => some (.path p)
    | _ => none
  | .disk problem p =>
    match name with
    | "args" => parts
    | "errno" => value (.int problem.number)
    | "strerror" => value (.text problem.reason)
    | "filename" => value (.text p.text)
    | "filename2" => value .null
    | _ => none
  | .settings _ | .negativeVariants _ => if name = "args" then parts else none
  | .fault _ => none

private def kindMember? (k : Kind) (name : String) : Option Argument :=
  match name with
  | "__name__" | "__qualname__" => some (.value (.text k.name))
  | "__module__" => some (.value (.text (k.home.getD Kind.commonHome)))
  | _ => none

/-- The member of an argument with a name, if it is listed. -/
def member? (a : Argument) (name : String) : Option Argument :=
  if name = "__class__" then some (.kind a.kindOf)
  else match a with
    | .value v => (valueMember? v name).map .value
    | .path p => pathMember? p name
    | .ancestors _ => none
    | .failure f => failureMember? f name
    | .kind k => kindMember? k name

private def entry (entries : List (Value × Value)) (key : Value) :
    Except Problem (Option Argument) :=
  match entries.find? fun e => Value.sameKey e.1 key with
  | some e => .ok (some (.value e.2))
  | none => .error .rejected

/-- The item of an argument at a position. The items of a kind are not listed. -/
def itemAt (a : Argument) (i : Nat) : Except Problem (Option Argument) :=
  let at? (a : Option Argument) : Except Problem (Option Argument) :=
    if a.isSome then .ok a else .error .rejected
  let found (v : Option Value) : Except Problem (Option Argument) := at? (v.map .value)
  match a with
  | .value v =>
    match v.opened with
    | .text s => found (s.toList[i]?.map fun c => .text (String.ofList [c]))
    | .list items => found items[i]?
    | .tuple items => found items[i]?
    | .bytes bs => found (bs[i]?.map fun b => .int b.toNat)
    | .map entries => entry entries (.int i)
    | _ => .error (.fault .wrongKind)
  | .ancestors p => at? (p.ancestors[i]?.map .path)
  | .kind _ => .ok none
  | .path _ | .failure _ => .error (.fault .wrongKind)

/-- The item of an argument under a key. Only mappings have keys; those of a kind are not listed. -/
def itemOf (a : Argument) (key : String) : Except Problem (Option Argument) :=
  match a with
  | .value v =>
    match v.opened with
    | .map entries => entry entries (.text key)
    | _ => .error (.fault .wrongKind)
  | .kind _ => .ok none
  | .path _ | .ancestors _ | .failure _ => .error (.fault .wrongKind)

/-- Takes one step into an argument. There is no result for what is not listed. -/
def stepInto (a : Argument) : Step → Except Problem (Option Argument)
  | .malformed => .error .rejected
  | .member name => .ok (member? a name)
  | .index i => itemAt a i
  | .item key => itemOf a key

/-- What an environment makes of a field whose steps lead out of what is listed here: of the
argument from which they do, the steps from there on and the conversion of the field. In the end
there is a text for each style. -/
abbrev Outside :=
  Argument → List Step → Option Char → Except Problem (List Char → Except Problem String)

/-- An environment that has the listed members only. -/
def Outside.none : Outside := fun _ _ _ => .error (.fault .missingMember)

/-- Where the steps of a field lead: to an argument, or from an argument out of what is listed here,
with the steps that are left. -/
inductive Reached where
  | argument (a : Argument)
  | outside (a : Argument) (rest : List Step)

/-- Takes steps into an argument. -/
def follow (a : Argument) : List Step → Except Problem Reached
  | [] => .ok (.argument a)
  | s :: rest => do
    match ← stepInto a s with
    | some a => follow a rest
    | none => return .outside a (s :: rest)

/-- What the name of a field means. Arguments have names; a field that counts them instead has
none. -/
def lookUp (arguments : List (String × Argument)) (name : List Char) : Except Problem Reached :=
  let isStep (c : Char) : Bool := c == '.' || c == '['
  let first := name.takeWhile fun c => !isStep c
  if first.isEmpty || first.all fun c => (digitValue? c).isSome then .error .rejected
  else
    match arguments.lookup (String.ofList first) with
    | none => .error .rejected
    | some a => follow a (steps (name.dropWhile fun c => !isStep c))

/-- Converts an argument to text, when a field asks for it. -/
def convert (a : Argument) : Option Char → Except Problem Argument
  | none => .ok a
  | some conversion =>
    if a.hasText then
      match conversion with
      | 's' => .ok (.value (.text a.display))
      | 'r' => .ok (.value (.text a.quoted))
      | 'a' => .ok (.value (.text (escapeNonAscii a.quoted)))
      | _ => .error .rejected
    else .error .rejected

/-- An argument in a style. Texts and numbers have styles; those of moments are not listed here, and
other arguments have none. -/
def format (outside : Outside) (a : Argument) (style : List Char) : Except Problem String :=
  if style.isEmpty then if a.hasText then .ok a.display else .error .rejected
  else match a with
    | .value (.text s) => do formatText (← FieldStyle.read (some 's') style) s
    | .value (.int i) => do formatInt (← FieldStyle.read (some 'd') style) i
    | .value (.bool b) => do formatInt (← FieldStyle.read (some 'd') style) (if b then 1 else 0)
    | .value (.float x) => do formatFloat (← FieldStyle.read none style) x
    | .value (.moment _) => do (← outside a [] none) style
    | _ => .error (.fault .wrongKind)

/-- How a field is written in a style, once its style is filled in. -/
def Field.writer (outside : Outside) (arguments : List (String × Argument)) (f : Field) :
    Except Problem (List Char → Except Problem String) := do
  match ← lookUp arguments f.name with
  | .argument a => return format outside (← convert a f.conversion)
  | .outside a rest => outside a rest f.conversion

/-- The text of a piece; `inner` fills in the styles that hold fields themselves. -/
def fillPiece (outside : Outside) (arguments : List (String × Argument))
    (inner : List Char → Except Problem String) : Piece → Except Problem String
  | .char c => .ok (String.ofList [c])
  | .malformed => .error .rejected
  | .field f => do
    let write ← f.writer outside arguments
    if f.style.contains '\x7b' then write (← inner f.style).toList else write f.style

/-- Fills in a template whose styles are nested to a depth. -/
def fillDepth (outside : Outside) (arguments : List (String × Argument)) :
    Nat → List Char → Except Problem String
  | 0, _ => .error .rejected
  | depth + 1, cs =>
    ((pieces cs).mapM (fillPiece outside arguments (fillDepth outside arguments depth))).map
      String.join

/-- Fills in a template. A style may hold fields, whose own styles hold none. -/
def fill (template : String) (arguments : List (String × Argument))
    (outside : Outside := .none) : Except Problem String :=
  fillDepth outside arguments 2 template.toList

end TestSkeleton.Template
