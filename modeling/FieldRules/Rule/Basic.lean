/-
Rules, ready to be applied to an object.

* `Rule`: a check, the message it reports, and what stands around it: a guard
  before and an interceptor after;
* `Rule.candidate`: the message, in the words of a localizer;
* `Rule.validate`: guard, then check, then interceptor;
* `Rule.bind`, `Rule.run`: the rule after it was applied, and both at once.
-/
import FieldRules.Localizer
import FieldRules.Rule.Check
import FieldRules.Rule.Guard

namespace FieldRules

/-- A rule for a field. -/
structure Rule where
  /-- What is asked of the value. -/
  check : Check
  /-- The kind of the message. -/
  kind : MessageKind
  /-- The text of the message. -/
  failureText : String
  /-- The key of its localized text. -/
  localizationKey : Option String
  /-- When the rule applies. -/
  guard : Option Guard
  /-- Who has the last word. -/
  interceptor : Option NamedHandler

namespace Rule

/-- The message that the rule reports when its check fails. -/
def candidate (r : Rule) (localizer : Option Localizer) : Message :=
  ⟨r.kind, localize localizer r.localizationKey r.failureText⟩

/-- Whether the rule applies to the object. -/
def applies (r : Rule) (owner : Entity) : Except Error Bool :=
  match r.guard with
  | some g => g.allows owner
  | none => .ok true

/-- What is reported once the check has spoken. -/
def intercept (r : Rule) (field : Field) (owner : Instance) (raw : Option Message) :
    Option Message :=
  match r.interceptor with
  | some h => h.run owner raw field
  | none => raw

/-- What the rule reports on the field of an object. -/
def validate (r : Rule) (field : Field) (owner : Instance) (localizer : Option Localizer) :
    Except Error (Option Message) :=
  match r.applies owner.object with
  | .error e => .error e
  | .ok false => .ok none
  | .ok true =>
    (r.check.validate field owner (r.candidate localizer)).map (r.intercept field owner)

/-- The rule after it was applied. A rule that does not apply sees nothing. -/
def bind (r : Rule) (field : Field) (owner : Entity) : Rule :=
  match r.applies owner with
  | .ok true => { r with check := r.check.bind (field.get owner) }
  | _ => r

/-- What the rule reports, and the rule afterwards. -/
def run (r : Rule) (field : Field) (owner : Instance) (localizer : Option Localizer) :
    Except Error (Option Message) × Rule :=
  (r.validate field owner localizer, r.bind field owner.object)

/-- A display of the rule. -/
def outline (r : Rule) : String :=
  Text.Outline.record "RuleMetadata"
    [("rule", Text.quoted r.check.name), ("message_kind", r.kind.label),
      ("failure_message", Text.quoted r.failureText),
      ("localization_key", Text.Outline.option (r.localizationKey.map Text.quoted)),
      ("guard", Text.Outline.option (r.guard.map Guard.outline)),
      ("interceptor", Text.Outline.option (r.interceptor.map NamedHandler.outline))]

end Rule

end FieldRules
