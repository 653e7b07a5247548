import TestSkeleton.Failure
import TestSkeleton.Java.Class

/-!
# The schema of manifests

A manifest is a mapping with a list of classes. Each entry names a class by its canonical name and
lists its constructor parameters and its methods in the order of their declaration:

    classes:
      - name: com.example.Widget
        constructor:
          - {name: size, type: int}
        methods:
          - name: resize
            visibility: public
            returns: void
            parameters:
              - {name: factor, type: double}

Whatever is empty may be left out.

Descriptor source of `stubwright-io`; specification `SPEC_FULL.md:176–198`.
-/

namespace TestSkeleton.Manifest

open Java

/-- The entries of a mapping. -/
abbrev Entries := List (Value × Value)

/-- The entries of a value that has to be a mapping. -/
def asMapping (failure : Failure) (v : Value) : Except Failure Entries :=
  match v.entries? with
  | some entries => .ok entries
  | none => .error failure

/-- A list under a key. Anything empty is an empty list.
`DescriptorLoader._as_list`. -/
def listOf (failure : Failure) (entries : Entries) (key : String) : Except Failure (List Value) :=
  match Value.get? entries key with
  | none => .ok []
  | some v =>
    if !v.isTruthy then .ok []
    else match v.items? with
      | some items => .ok items
      | none => .error failure

/-- The name of an entry, which has to be a text that is not empty. -/
def nameOf (failure : Failure) (entries : Entries) : Except Failure String :=
  match Value.get? entries "name" with
  | some (.text s) => if s = "" then .error failure else .ok s
  | _ => .error failure

/-- The text of the value under a key, or a default. -/
def textOf (entries : Entries) (key default : String) : Except Failure String :=
  match Value.get? entries key with
  | none => .ok default
  | some v => Failure.ofFault v.shown

/-- A parameter of a method or class.
`DescriptorLoader._parse_parameter`. -/
def parameter (path : Path) (owner : String) (v : Value) : Except Failure Parameter := do
  let incomplete : Failure := .manifest path (.incompleteParameter owner)
  let entries ← asMapping incomplete v
  match Value.get? entries "name", Value.get? entries "type" with
  | some name, some type =>
    let name ← Failure.ofFault name.shown
    let type ← Failure.ofFault type.shown
    return ⟨name, type⟩
  | _, _ => throw incomplete

/-- The visibility of a method; methods are public unless they say otherwise. -/
def visibility (path : Path) (owner name : String) (entries : Entries) :
    Except Failure Visibility := do
  let word := Text.lower (← textOf entries "visibility" Visibility.isPublic.word)
  match Visibility.ofWord? word with
  | some visibility => return visibility
  | none => throw (.manifest path (.unknownVisibility owner name word))

/-- A method of a class.
`DescriptorLoader._parse_method`. -/
def method (path : Path) (owner : String) (v : Value) : Except Failure Method := do
  let entries ← asMapping (.manifest path (.methodNotMapping owner)) v
  let name ← nameOf (.manifest path (.methodWithoutName owner)) entries
  let visibility ← visibility path owner name entries
  let items ← listOf (.manifest path (.notList "parameters")) entries "parameters"
  let parameters ← items.mapM (parameter path (owner ++ "." ++ name))
  return {
    name, visibility, parameters
    returnType := ← textOf entries "returns" "void"
    isStatic := ((Value.get? entries "static").map Value.isTruthy).getD false }

/-- A class of a manifest.
`DescriptorLoader._parse_class`. -/
def classInfo (path : Path) (v : Value) : Except Failure ClassInfo := do
  let entries ← asMapping (.manifest path .classNotMapping) v
  let canonicalName ← nameOf (.manifest path .classWithoutName) entries
  let methods ← (← listOf (.manifest path (.notList "methods")) entries "methods").mapM
    (method path canonicalName)
  let constructorParameters ←
    (← listOf (.manifest path (.notList "constructor")) entries "constructor").mapM
      (parameter path canonicalName)
  return {
    canonicalName, methods, constructorParameters
    givenName := (Value.get? entries "simple_name").getD .null }

/-- The classes of the manifest at a path, in the order of its list. An empty document has none.
`DescriptorLoader._load_file`, `SPEC_FULL.md:196–198`. -/
def decode (path : Path) (v : Value) : Except Failure (List ClassInfo) := do
  match v with
  | .null => return []
  | _ =>
    let entries ← asMapping (.manifest path .rootNotMapping) v
    (← listOf (.manifest path .classesNotList) entries "classes").mapM (classInfo path)

end TestSkeleton.Manifest
