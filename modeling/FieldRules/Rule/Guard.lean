/-
Guards: conditions on another field, under which a rule applies.

* `Guard.holdsFor`: whether a value counts as valid: true, a text that is not
  blank, a number above zero, a collection or an object;
* `Guard.allows`: whether the value at the path is valid, or is not, if the path
  is negated.
-/
import FieldRules.Rule.Numeric

namespace FieldRules

/-- A condition on the field at the end of a path. -/
structure Guard where
  /-- The path to the field. -/
  path : Path

namespace Guard

/-- The comparison that numbers must keep to. -/
def aboveZero : NumericCheck :=
  .fresh (.greaterThan ⟨"0", none⟩)

/-- Whether the value in a slot counts as valid. -/
def holdsFor (s : Slot) : Value → Except Error Bool
  | .bool flag => .ok flag
  | .text t => .ok (!Text.isBlank t)
  | .number n => aboveZero.passes s.name (.number n) s.owner
  | .null => .ok false
  | .list _ | .object _ => .ok true

/-- Whether the rule behind the guard applies to the object. -/
def allows (g : Guard) (owner : Entity) : Except Error Bool :=
  match owner.locate g.path with
  | .error e => .error (.path e)
  | .ok s => (holdsFor s s.value).map (· != g.path.negated)

/-- A display of the guard. -/
def outline (g : Guard) : String :=
  Text.Outline.record "Guard" [("path", g.path.outline)]

end Guard

end FieldRules
