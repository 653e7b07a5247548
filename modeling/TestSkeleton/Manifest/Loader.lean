import TestSkeleton.Disk.Lookup
import TestSkeleton.Json.Reader
import TestSkeleton.Manifest.Schema
import TestSkeleton.Text.Order
import TestSkeleton.Yaml.Reader

/-!
# Loading manifests

A descriptor path names a manifest or a directory of manifests. In a directory every file with the
suffix of a manifest counts, at any depth, in the order of the paths compared segment by segment;
other files do not matter.

Descriptor source of `stubwright-io`; specification `SPEC_FULL.md:194–198`.
-/

namespace TestSkeleton.Manifest

open Java

/-- The formats of manifests. -/
inductive Format where
  | yaml
  | json
deriving DecidableEq, Repr

/-- The format that the suffix of a path announces, in any case of letters.
`SPEC_FULL.md:194–195`. -/
def Format.ofPath? (p : Path) : Option Format :=
  match Text.lower p.suffix with
  | ".yaml" | ".yml" => some yaml
  | ".json" => some json
  | _ => none

/-- The document in bytes of a format. Its texts are to be written. -/
def Format.read (format : Format) (content : ByteArray) : Except TextProblem Value :=
  match format with
  | .yaml => Yaml.readBytes content
  | .json =>
    match String.fromUTF8? content with
    | some text => Json.read text Text.writtenHalf
    | none => .error .malformed

/-- The document in a manifest. Bytes that are no text and texts that do not follow their format are
unreadable; an impossible value is a fault. -/
def parse (format : Format) (path : Path) (content : ByteArray) : Except Failure Value :=
  match format.read content with
  | .ok v => .ok v
  | .error .malformed => .error (.manifest path .unreadable)
  | .error (.fault f) => .error (.fault f)

/-- The classes of a manifest with the given content. -/
def classesOf (format : Format) (path : Path) (content : ByteArray) :
    Except Failure (List ClassInfo) := do
  decode path (← parse format path content)

/-- Whether a path does not come after another one, segment by segment. -/
def comesFirst (p q : Path) : Bool :=
  (Text.compareTextLists (p.segments.map Segment.text) (q.segments.map Segment.text)).isLE

/-- The manifests below a directory, in order. -/
def manifestsBelow (disk : Disk) (dir : Path) : List (Format × Path × ByteArray) :=
  ((disk.filesBelow dir).mergeSort fun a b => comesFirst a.1 b.1).filterMap fun (path, content) =>
    (Format.ofPath? path).map fun format => (format, path, content)

/-- The classes of a manifest file.
`DescriptorLoader._load_file`, `SPEC_FULL.md:196–198`. -/
def loadFile (disk : Disk) (path : Path) : Except Failure (List ClassInfo) :=
  match Format.ofPath? path with
  | none => .error (.manifest path (.unsupportedFormat path.suffix))
  | some format =>
    match disk.read path with
    | .ok content => classesOf format path content
    | .error (.disk _ _) => .error (.manifest path .unreadable)
    | .error e => .error e

/-- The classes at a descriptor path. Whatever is below a directory is read, however deep it is; see
`Disk.filesBelow`.
`DescriptorLoader.load`, `SPEC_FULL.md:194–198`. -/
def load (disk : Disk) (path : Path) : Except Failure (List ClassInfo) := do
  if !(← disk.pathExists path) then throw (.manifest path .missing)
  if ← disk.isDirectory path then
    let lists ← (manifestsBelow disk path).mapM fun (format, path, content) =>
      classesOf format path content
    return lists.flatten
  else loadFile disk path

/-- The classes at several descriptor paths.
`DescriptorLoader.load_all`. -/
def loadAll (disk : Disk) (paths : List Path) : Except Failure (List ClassInfo) := do
  return (← paths.mapM (load disk)).flatten

end TestSkeleton.Manifest
