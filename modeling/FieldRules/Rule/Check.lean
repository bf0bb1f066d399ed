/-
Checks: the part of a rule that looks at the value of its field.

* `Check`: the seven kinds; all but custom checks decide by themselves;
* `Check.validate`: the message to report, none if the check passes;
* `Check.bind`: the check after it has seen a value, which matters to numeric
  checks alone;
* `Check.run`: both at once.
-/
import FieldRules.Rule.Handler
import FieldRules.Rule.Numeric

namespace FieldRules

/-- What a rule asks of the value of its field. -/
inductive Check where
  /-- There must be something. -/
  | present
  /-- A number must keep to its bounds. -/
  | numeric (c : NumericCheck)
  /-- A text must have characters, at least as many as the bound says. -/
  | longer (bound : LengthBound)
  /-- A text must not have more characters than the bound says. -/
  | shorter (bound : LengthBound)
  /-- A handler decides; without one the check always fails. -/
  | custom (delegate : Option NamedHandler)

namespace Check

/-- The name of the check in messages and displays. -/
def name : Check → String
  | present => "ValuePresent"
  | numeric ⟨.inRange .., _⟩ => "NumberInRange"
  | numeric ⟨.lessThan _, _⟩ => "NumberLessThan"
  | numeric ⟨.greaterThan _, _⟩ => "NumberGreaterThan"
  | longer _ => "StringLengthGreaterThan"
  | shorter _ => "StringLengthLessThan"
  | custom _ => "CustomHandler"

/-- The width that the check is bound to. -/
def width? : Check → Option Width
  | numeric c => c.width
  | _ => none

/-- The number of characters of a value; nothing has none, and other values than texts have no such
number. -/
def textLength? : Value → Option Int
  | .text s => some s.length
  | .null => some 0
  | _ => none

/-- Whether a value is too short. -/
def isTooShort (bound : Int) (v : Value) : Bool :=
  match textLength? v with
  | some n => n < bound || n == 0
  | none => true

/-- Whether a value is too long. -/
def isTooLong (bound : Int) (v : Value) : Bool :=
  match textLength? v with
  | some n => bound < n
  | none => false

/-- What is reported: the candidate if the check fails, nothing if it passes, and what the handler
says if there is one. -/
def validate (field : Field) (owner : Instance) (candidate : Message) :
    Check → Except Error (Option Message)
  | present => .ok (if (field.get owner.object).isPresent then none else some candidate)
  | numeric c =>
    (c.passes field.name (field.get owner.object) owner.object).map fun passed =>
      if passed then none else some candidate
  | longer bound =>
    (bound.effective owner.object).map fun b =>
      if isTooShort b (field.get owner.object) then some candidate else none
  | shorter bound =>
    (bound.effective owner.object).map fun b =>
      if isTooLong b (field.get owner.object) then some candidate else none
  | custom (some h) => .ok (h.run owner (some candidate) field)
  | custom none => .ok (some candidate)

/-- The check after it has seen a value. -/
def bind (v : Value) : Check → Check
  | numeric c => numeric (c.bind v)
  | c => c

/-- What is reported, and the check afterwards. -/
def run (c : Check) (field : Field) (owner : Instance) (candidate : Message) :
    Except Error (Option Message) × Check :=
  (c.validate field owner candidate, c.bind (field.get owner.object))

end Check

end FieldRules
