/-
Comparing a field with numeric bounds.

* `Comparison.holds`: whether a number keeps to the bounds of an object;
* `NumericCheck`: a comparison with the width of the first number it was asked
  about; from then on it takes numbers of that width only;
* `NumericCheck.accept`, `NumericCheck.bind`: the number that a value offers, and
  the check after it has seen the value;
* `NumericCheck.passes`: the verdict.
-/
import FieldRules.Rule.Bound

namespace FieldRules

/-- What a number must keep to. -/
inductive Comparison where
  /-- Neither below the first bound nor above the second. -/
  | inRange (min max : NumericBound)
  /-- Below the bound. -/
  | lessThan (bound : NumericBound)
  /-- Above the bound. -/
  | greaterThan (bound : NumericBound)

namespace Comparison

/-- Whether the number keeps to the bounds of the object. -/
def holds (owner : Entity) (n : Number) : Comparison → Except Error Bool
  | inRange min max => do
    let low ← min.effective owner n.width
    let high ← max.effective owner n.width
    return low.atMost n && n.atMost high
  | lessThan bound => do
    let high ← bound.effective owner n.width
    return n.less high
  | greaterThan bound => do
    let low ← bound.effective owner n.width
    return low.less n

end Comparison

/-- A comparison, and the width that it is bound to once it has seen a number. -/
structure NumericCheck where
  /-- What numbers must keep to. -/
  comparison : Comparison
  /-- The width of the first number seen. -/
  width : Option Width

namespace NumericCheck

/-- A check that has not seen a number yet. -/
def fresh (c : Comparison) : NumericCheck := ⟨c, none⟩

/-- The width that the check asks for, in words. -/
def expected (c : NumericCheck) : String :=
  (c.width.map Width.name).getD "number"

/-- The number that the value of a field offers, of the width that the check is bound to. -/
def accept (c : NumericCheck) (field : String) (v : Value) : Except Error Number :=
  match v.number? with
  | none => .error (.typeMismatch field c.expected v.kindName)
  | some n =>
    if c.width.getD n.width = n.width then .ok n
    else .error (.typeMismatch field c.expected v.kindName)

/-- The check after it has seen a value: the first number binds the width. -/
def bind (c : NumericCheck) (v : Value) : NumericCheck :=
  { c with width := c.width.or (v.number?.map Number.width) }

/-- Whether the value of a field keeps to the bounds of the object. -/
def passes (c : NumericCheck) (field : String) (v : Value) (owner : Entity) : Except Error Bool :=
  match c.accept field v with
  | .error e => .error e
  | .ok n => c.comparison.holds owner n

end NumericCheck

end FieldRules
