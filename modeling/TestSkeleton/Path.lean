import TestSkeleton.Text.Split

/-!
# Paths

A path is an anchor and a list of segments. Reading a path drops empty segments and single dots, so
that two texts of one place read alike; it keeps double dots, whose meaning depends on the disk.
-/

namespace TestSkeleton

/-- Where a path starts. Exactly two leading slashes are an anchor of their own. -/
inductive Anchor where
  | relative
  | root
  | doubleRoot
deriving DecidableEq, Repr, Inhabited

/-- The slashes of an anchor. -/
def Anchor.text : Anchor → String
  | relative => ""
  | root => "/"
  | doubleRoot => "//"

/-- Whether a text may be a segment of a path. -/
def isSegment (s : String) : Bool := s != "" && s != "." && !s.toList.contains '/'

/-- A segment of a path: not empty, not a single dot, and without slashes. -/
structure Segment where
  text : String
  isSegment_text : isSegment text = true
deriving DecidableEq

instance : Repr Segment := ⟨fun s n => reprPrec s.text n⟩

instance : Inhabited Segment := ⟨⟨"..", rfl⟩⟩

namespace Segment

/-- The segment of a text, if it is one. -/
def ofString? (s : String) : Option Segment :=
  if h : isSegment s = true then some ⟨s, h⟩ else none

/-- The step to the directory above. -/
def up : Segment := ⟨"..", rfl⟩

end Segment

/-- A path. -/
structure Path where
  anchor : Anchor := .relative
  segments : List Segment := []
deriving DecidableEq, Repr, Inhabited

namespace Path

/-- The anchor of the text of a path. -/
def anchorOf : List Char → Anchor
  | ['/', '/'] => .doubleRoot
  | '/' :: '/' :: c :: _ => if c = '/' then .root else .doubleRoot
  | '/' :: _ => .root
  | _ => .relative

/-- The segments of the text of a path. -/
def segmentsOf (s : String) : List Segment := (Text.splitOn '/' s).filterMap Segment.ofString?

/-- Reads a path. -/
def ofString (s : String) : Path := ⟨anchorOf s.toList, segmentsOf s⟩

/-- The text of a path; that of the empty path is a dot. -/
def text (p : Path) : String :=
  if p = {} then "." else p.anchor.text ++ "/".intercalate (p.segments.map Segment.text)

/-- A path seen from another one: an anchored path stays as it is. -/
def join (p q : Path) : Path :=
  if q.anchor = .relative then ⟨p.anchor, p.segments ++ q.segments⟩ else q

/-- The path of a text, seen from a path. -/
def joinText (p : Path) (s : String) : Path := p.join (ofString s)

/-- The path with one more segment. -/
def child (p : Path) (s : Segment) : Path := ⟨p.anchor, p.segments ++ [s]⟩

/-- The path without its last segment. -/
def parent (p : Path) : Path := ⟨p.anchor, p.segments.dropLast⟩

/-- The path and all paths above it, the nearest first. -/
def selfAndAncestors (p : Path) : List Path :=
  (List.range (p.segments.length + 1)).map fun n =>
    ⟨p.anchor, p.segments.take (p.segments.length - n)⟩

/-- The paths above a path, the nearest first. -/
def ancestors (p : Path) : List Path := p.selfAndAncestors.tail

/-- The last segment. -/
def name (p : Path) : String := (p.segments.getLast?.map Segment.text).getD ""

/-- What follows the last dot of the name, dot included. A dot at either end of the name starts no
suffix. -/
def suffix (p : Path) : String :=
  let tail := (p.name.toList.reverse.takeWhile (· ≠ '.')).reverse
  if tail.length = 0 ∨ p.name.length ≤ tail.length + 1 then ""
  else String.ofList ('.' :: tail)

/-- The name without its suffix. -/
def stem (p : Path) : String := (Text.stripEnd? p.suffix p.name).getD p.name

/-- Every part of the name that a dot starts. Dots in front of the name start none, and a name with
a dot at its end has no such parts. -/
def suffixes (p : Path) : List String :=
  if p.name.toList.getLast? = some '.' then []
  else
    let parts := Text.splitOn '.' (String.ofList (p.name.toList.dropWhile (· == '.')))
    parts.tail.map ("." ++ ·)

/-- The anchor, if there is one, and the segments. -/
def parts (p : Path) : List String :=
  (if p.anchor = .relative then [] else [p.anchor.text]) ++ p.segments.map Segment.text

-- Takes steps upwards out of segments given in reverse; steps beyond the start are dropped.
private def climb : List Segment → List Segment → List Segment
  | done, [] => done
  | done, s :: rest => if s = .up then climb done.tail rest else climb (s :: done) rest

/-- The path without steps upwards. Without links on the disk it names the same place. -/
def resolve (p : Path) : Path := ⟨p.anchor, (climb [] p.segments).reverse⟩

/-- The empty text has no segments. -/
theorem segmentsOf_empty : segmentsOf "" = [] := by decide

private theorem mem_climb {s : Segment} {done rest : List Segment} (h : s ∈ climb done rest) :
    s ∈ done ∨ s ∈ rest ∧ s ≠ .up := by
  induction rest generalizing done with
  | nil => exact .inl h
  | cons t rest ih =>
    rw [climb] at h
    split at h
    · exact (ih h).imp List.mem_of_mem_tail fun hs => ⟨List.mem_cons_of_mem t hs.1, hs.2⟩
    · next ht =>
      rcases ih h with hs | hs
      · rcases List.mem_cons.mp hs with rfl | hs
        · exact .inr ⟨List.mem_cons_self, ht⟩
        · exact .inl hs
      · exact .inr ⟨List.mem_cons_of_mem t hs.1, hs.2⟩

/-- A resolved path has segments of the path, and no steps upwards. -/
theorem mem_resolve {p : Path} {s : Segment} (h : s ∈ p.resolve.segments) :
    s ∈ p.segments ∧ s ≠ .up :=
  (mem_climb (List.mem_reverse.mp h)).resolve_left List.not_mem_nil

/-- Above a path are paths of its first segments. -/
theorem mem_selfAndAncestors {p dir : Path} (h : dir ∈ p.selfAndAncestors) :
    dir.segments <+: p.segments := by
  obtain ⟨n, -, rfl⟩ := List.mem_map.mp h
  exact List.take_prefix _ _

/-- The directory of what is in a directory. -/
@[simp] theorem parent_child (p : Path) (s : Segment) : (p.child s).parent = p := by
  simp [parent, child]

/-- The empty path leads nowhere else. -/
@[simp] theorem join_empty (p : Path) : p.join {} = p := by simp [join]

end Path
end TestSkeleton
