import TestSkeleton.Message.Rendering
import TestSkeleton.Text.Quoted

/-!
# Message logs

A listener that keeps the messages themselves instead of their texts, and the check that a message
has been sent.

Message spy of `stubwright-test-utils`; specification `SPEC_FULL.md:253–254`.
-/

namespace TestSkeleton

/-- The messages sent so far, in order.
`SpyBus`. -/
abbrev MessageLog := List Message

namespace MessageLog

/-- Records a message whose arguments have names of their own. -/
def record {m : Type → Type} [Monad m] [MonadExcept Failure m] [MonadStateOf MessageLog m]
    (msg : Message) : m Unit := do
  Failure.orThrow (checkNames sentNames msg.arguments)
  modifyThe MessageLog (· ++ [msg])

/-- Whether a message with a key was sent, at any level or at a given one. -/
def hasSent (log : MessageLog) (key : Key) (level : Option String) : Bool :=
  log.any fun msg => msg.key == key && level.all (· == msg.level.word)

/-- The keys of the messages, as a list in brackets. -/
def quotedKeys (log : MessageLog) : String :=
  "[" ++ ", ".intercalate (log.map fun msg => Text.quoted msg.key.path) ++ "]"

/-- Requires that a message was sent; the report on a missing one lists the keys that were.
`SpyBus.assert_id_called`. -/
def require (log : MessageLog) (key : Key) (level : Option String) : Except String Unit :=
  if log.hasSent key level then .ok ()
  else .error ("Message with ID '" ++ key.path ++ "' was not sent.\nCaptured IDs: "
    ++ log.quotedKeys)

end MessageLog
end TestSkeleton
