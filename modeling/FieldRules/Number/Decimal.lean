/-
Decimal numbers: a mantissa of ninety-six bits with up to twenty-eight places.

* `Decimal`: sign, mantissa and scale; a zero may have a sign, which `text`
  shows and `compare` ignores;
* `ofParts?`: the number with these parts, if it is in range;
* `text`: all places that the scale asks for;
* `compare`: by value, so that trailing zeros do not matter.
-/
import FieldRules.Number.Numeral

namespace FieldRules

/-- The greatest number of places. -/
def Decimal.maxScale : Nat := 28

/-- Mantissas stay below this number. -/
def Decimal.mantissaBound : Nat := Nat.pow 2 96

/-- The number `± mantissa / 10 ^ scale`. -/
structure Decimal where
  /-- The sign is a minus. -/
  negative : Bool
  /-- The digits, read as one number. -/
  mantissa : Nat
  /-- How many of the digits are places after the point. -/
  scale : Nat
  /-- The mantissa fits. -/
  mantissa_lt : mantissa < Decimal.mantissaBound
  /-- The scale fits. -/
  scale_le : scale ≤ Decimal.maxScale
  deriving DecidableEq

namespace Decimal

/-- The number with the given sign, mantissa and scale, unless it is out of range. -/
def ofParts? (negative : Bool) (mantissa scale : Nat) : Option Decimal :=
  if h : mantissa < mantissaBound ∧ scale ≤ maxScale then
    some ⟨negative, mantissa, scale, h.1, h.2⟩
  else none

/-! ### Writing and comparing -/

/-- The number with all its places. -/
def text (x : Decimal) : String :=
  let ds := Numeral.fixed x.mantissa x.scale
  String.ofList (if x.negative then '-' :: ds else ds)

/-- Whether the number is zero, with whatever scale. -/
def isZero (x : Decimal) : Bool :=
  x.mantissa == 0

/-- The number in units of the last possible place. -/
def units (x : Decimal) : Int :=
  let m : Int := (x.mantissa * Nat.pow 10 (maxScale - x.scale) : Nat)
  if x.negative then -m else m

/-- The order of the values. -/
def compare (x y : Decimal) : Ordering :=
  Ord.compare x.units y.units

end Decimal

end FieldRules
