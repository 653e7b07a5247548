import TestSkeleton.Message.Catalog
import TestSkeleton.Message.Template

/-!
# Rendering

The text of a message: its template, filled in. A template that does not fit its arguments gives a
text that names the key. Some names of arguments are taken by the message itself.

Message bus of `stubwright-common`; specification `SPEC_FULL.md:219–225`.
-/

namespace TestSkeleton

/-- The text for a message whose template does not fit. -/
def formattingError (key : Key) : String := "<formatting_error for '" ++ key.path ++ "'>"

/-- The text of a template filled in for a key. -/
def Key.fillIn (key : Key) (template : String) (arguments : List (String × Argument))
    (outside : Template.Outside := .none) : Except Failure String :=
  match Template.fill template arguments outside with
  | .ok s => .ok s
  | .error .rejected => .ok (formattingError key)
  | .error (.fault f) => .error (.fault f)

/-- The fault of arguments with a name that is taken. -/
def checkNames (taken : List String) (arguments : List (String × Argument)) :
    Except Failure Unit :=
  if arguments.any fun a => taken.contains a.1 then .error (.fault .wrongKind) else .ok ()

/-- Names that no argument may have when a text is rendered. -/
def renderedNames : List String := ["self", "msg_id"]

/-- Names that no argument of a message may have. -/
def sentNames : List String := "level" :: renderedNames

/-- The text of a key with arguments, from a source of templates.
`MessageBus.render_to_string`, `SPEC_FULL.md:219–224`. -/
def Key.render {m : Type → Type} [Monad m] [MonadExcept Failure m] (source : String → m String)
    (key : Key) (arguments : List (String × Argument))
    (outside : Template.Outside := .none) : m String := do
  let template ← source key.path
  Failure.orThrow (key.fillIn template arguments outside)

/-- Sends a message to a renderer. Without one nothing is rendered, but the names are checked.
`MessageBus._render`, `SPEC_FULL.md:224–225`. -/
def Message.send {m : Type → Type} [Monad m] [MonadExcept Failure m] (source : String → m String)
    (renderer : Option (Level → String → m Unit)) (msg : Message)
    (outside : Template.Outside := .none) : m Unit := do
  Failure.orThrow (checkNames sentNames msg.arguments)
  match renderer with
  | none => return ()
  | some render => render msg.level (← msg.key.render source msg.arguments outside)

end TestSkeleton
