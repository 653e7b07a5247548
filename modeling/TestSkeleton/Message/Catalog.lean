import TestSkeleton.Json.Reader
import TestSkeleton.Message.Argument
import TestSkeleton.Message.Packaged
import TestSkeleton.Text.Order

/-!
# The catalog of templates

Templates by key, one table for each language. A root has templates in `needle/<language>` and
overrides in `.stubwright/needle/<language>`. Later roots win over earlier ones, overrides over
templates, and of the files below a directory the later ones, ordered by directory and then by name.
A table is read when it is first needed and kept until the roots change.

Runtime of `stubwright-needle`; specification `SPEC_FULL.md:221–224`.
-/

namespace TestSkeleton

/-- Templates by key. -/
abbrev Templates := List (String × String)

namespace Templates

/-- Templates with newer ones, which win. -/
def merge (older newer : Templates) : Templates :=
  newer ++ older.filter fun t => (newer.lookup t.1).isNone

/-- The templates in a file. Values that are no texts are displayed; a file that does not hold an
object has no templates. -/
def ofContent (content : ByteArray) : Except Fault Templates :=
  match (String.fromUTF8? content).map fun text => Json.read text with
  | none | some (.error .malformed) => .ok []
  | some (.error (.fault f)) => .error f
  | some (.ok v) =>
    match v.entries? with
    | some entries => entries.mapM fun e => do return (← e.1.shown, ← e.2.shown)
    | none => .ok []

/-- The templates in the file that a path leads to. A file that cannot be opened has none.
`Loader._load_and_merge_file`. -/
def ofFile (disk : Disk) (path : Path) : Except Fault Templates :=
  match disk.read path with
  | .ok content => ofContent content
  | .error _ => .ok []

/-- Whether a file is read before another one: by the text of its directory, then by its name. -/
def readBefore (p q : Path) : Bool :=
  (Text.compareTextLists [p.parent.text, p.name] [q.parent.text, q.name]).isLE

/-- Whether a file is a template file. -/
def isTemplateFile (p : Path) : Bool := Text.lower p.suffix == ".json"

/-- The templates of all template files below a directory.
`Loader.load_directory`. -/
def ofDirectory (disk : Disk) (dir : Path) : Except Failure Templates := do
  if ← disk.isDirectory dir then
    let files := (disk.filesBelow dir).mergeSort fun a b => readBefore a.1 b.1
    let parts ← Failure.ofFault
      ((files.filter fun f => isTemplateFile f.1).mapM fun f => ofFile disk f.1)
    return parts.foldl merge []
  else return []

end Templates

/-- Where templates come from. -/
inductive Root where
  | packaged
  | directory (path : Path)
deriving DecidableEq, Repr, Inhabited

namespace Root

/-- The disk that a root is on and its path there. -/
def place (disk : Disk) : Root → Disk × Path
  | packaged => (Packaged.disk, .ofString "/")
  | directory path => (disk, path)

/-- The directories of a root that hold templates of a language; the last one wins.
`Needle._template_dirs`, `SPEC_FULL.md:222–223`. -/
def templateDirs (path : Path) (language : String) : List Path :=
  [(path.joinText "needle").joinText language,
   ((path.joinText ".stubwright").joinText "needle").joinText language]

/-- The templates of a root for a language. -/
def templates (disk : Disk) (language : String) (r : Root) : Except Failure Templates := do
  let (disk, path) := r.place disk
  let parts ← (templateDirs path language).mapM (Templates.ofDirectory disk)
  return parts.foldl Templates.merge []

end Root

/-- Roots, and the tables that have been read since the roots last changed. -/
structure Catalog where
  roots : List Root
  tables : List (String × Templates) := []
deriving Repr, Inhabited

/-- The language of the templates that every message falls back to. -/
def defaultLanguage : String := "en"

/-- The catalog's surroundings: the disk and the language that the environment asks for. -/
structure Locale where
  disk : Disk
  language : Option String := none

namespace Catalog

/-- The table of a language as the roots have it now. -/
def fresh (disk : Disk) (roots : List Root) (language : String) : Except Failure Templates := do
  return (← roots.mapM (Root.templates disk language)).foldl Templates.merge []

/-- The table of a language, read if it has not been needed before.
`Needle.catalog`. -/
def table (disk : Disk) (language : String) : ExceptT Failure (StateM Catalog) Templates :=
  fun c =>
    match c.tables.lookup language with
    | some t => (.ok t, c)
    | none =>
      match fresh disk c.roots language with
      | .ok t => (.ok t, { c with tables := (language, t) :: c.tables })
      | .error e => (.error e, c)

/-- The first text that is given and not empty. -/
def firstGiven (default : String) : List (Option String) → String
  | [] => default
  | some s :: rest => if s = "" then firstGiven default rest else s
  | none :: rest => firstGiven default rest

/-- The template of a key in the first of some languages that has one; a key without templates is
its own template. -/
def getIn (disk : Disk) (key : String) : List String → ExceptT Failure (StateM Catalog) String
  | [] => return key
  | language :: rest => do
    match (← table disk language).lookup key with
    | some template => return template
    | none => getIn disk key rest

/-- The template of a key: in the language that is asked for here, or else by the environment, and
then in the default language.
`Needle.get`, `SPEC_FULL.md:221–224`. -/
def get (l : Locale) (key : String) (language : Option String := none) :
    ExceptT Failure (StateM Catalog) String :=
  let requested := firstGiven defaultLanguage [language, l.language]
  getIn l.disk key
    (if requested = defaultLanguage then [requested] else [requested, defaultLanguage])

/-- The catalog without tables.
`Needle.reset`. -/
def reset (c : Catalog) : Catalog := { c with tables := [] }

/-- The catalog with a root below all others. A root that is there already changes nothing.
`Needle.add_root`. -/
def addRoot (c : Catalog) (r : Root) : Catalog :=
  if r ∈ c.roots then c else { roots := r :: c.roots }

end Catalog
end TestSkeleton
