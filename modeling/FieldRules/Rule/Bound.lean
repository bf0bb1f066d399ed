/-
Bounds: what a rule compares with, configured or taken from another field.

* `NumericBound.effective`: the number at the path if it reads at the width and
  is not zero, otherwise the configured literal;
* `LengthBound.effective`: the length of the text at the path, or the integer
  that stands there, otherwise the configured length.
-/
import FieldRules.Error
import FieldRules.Resolve

namespace FieldRules

/-- A configured number, and the path to a field that may take its place. -/
structure NumericBound where
  /-- The numeral of the number. -/
  literal : String
  /-- The path to the field. -/
  path : Option Path

namespace NumericBound

/-- The configured number, which must read at the width. -/
def configured (b : NumericBound) (w : Width) : Except Error Number :=
  match w.parse? b.literal with
  | some n => .ok n
  | none => .error (.conversion b.literal w)

/-- The number of the width that the text of a value stands for. Zero does not count. -/
def usable? (v : Value) (w : Width) : Option Number :=
  (v.literal?.bind w.parse?).filter fun n => !n.isZero

/-- The bound for an object, at the width of the number that it is compared with. -/
def effective (b : NumericBound) (owner : Entity) (w : Width) : Except Error Number :=
  match b.path with
  | none => b.configured w
  | some p =>
    match owner.resolve p with
    | .error e => .error (.path e)
    | .ok v =>
      match usable? v w with
      | some n => .ok n
      | none => b.configured w

end NumericBound

/-- A configured length, and the path to a field that may take its place. -/
structure LengthBound where
  /-- The length. -/
  length : Int
  /-- The path to the field. -/
  path : Option Path

namespace LengthBound

/-- The length that a value stands for. -/
def ofValue? : Value → Option Int
  | .text s => some s.length
  | v =>
    (v.literal?.bind fun s => Integer.read? (Text.trim s.toList)).map fun (n : Integer 64) => n.val

/-- The bound for an object. -/
def effective (b : LengthBound) (owner : Entity) : Except Error Int :=
  match b.path with
  | none => .ok b.length
  | some p =>
    match owner.resolve p with
    | .error e => .error (.path e)
    | .ok v => .ok ((ofValue? v).getD b.length)

end LengthBound

end FieldRules
