/-
Binary floating-point numbers of a given format.

* `Format`: the bits of a significand and the exponents of its last bit;
  `single` and `double` are the two that fields can have;
* `Binary f`: not a number, an infinity, or `± m * 2 ^ q` with the one pair
  `(m, q)` that `Format.Canonical` singles out;
* `ofUnits`: the number with a given pair, an infinity if it is too large;
* `compare?`: the order of the values; nothing compares with not a number.
-/
namespace FieldRules

/-- A format of floating-point numbers. -/
structure Format where
  /-- The bits of a significand. -/
  precision : Nat
  /-- The least exponent of the last bit. -/
  minExp : Int
  /-- The greatest exponent of the last bit. -/
  maxExp : Int
  deriving DecidableEq

namespace Format

/-- Thirty-two bits, twenty-four of them for the significand. -/
def single : Format := ⟨24, -149, 104⟩

/-- Sixty-four bits, fifty-three of them for the significand. -/
def double : Format := ⟨53, -1074, 971⟩

/-- The significand fits, and it is as long as the least exponent lets it be. -/
def Canonical (f : Format) (m : Nat) (q : Int) : Prop :=
  m < Nat.pow 2 f.precision ∧ f.minExp ≤ q ∧ q ≤ f.maxExp ∧
    (q = f.minExp ∨ Nat.pow 2 (f.precision - 1) ≤ m)

instance (f : Format) (m : Nat) (q : Int) : Decidable (f.Canonical m q) :=
  inferInstanceAs (Decidable (_ ∧ _ ∧ _ ∧ _))

end Format

/-- A floating-point number of the format `f`. -/
inductive Binary (f : Format) where
  /-- Not a number. -/
  | nan
  /-- An infinity, with its sign. -/
  | infinite (negative : Bool)
  /-- The number `m * 2 ^ q` or its negative. -/
  | finite (negative : Bool) (m : Nat) (q : Int) (canonical : f.Canonical m q)
  deriving DecidableEq

namespace Binary

variable {f : Format}

/-- The number `m * 2 ^ q` or its negative. A pair out of range stands for a number too large for
the format. -/
def ofUnits (negative : Bool) (m : Nat) (q : Int) : Binary f :=
  if h : f.Canonical m q then finite negative m q h else infinite negative

/-- Whether the number is a zero of either sign. -/
def isZero : Binary f → Bool
  | finite _ m _ _ => m == 0
  | _ => false

/-- A finite number as a multiple of the least positive one. -/
def units (negative : Bool) (m : Nat) (q least : Int) : Int :=
  let n : Int := (m * Nat.pow 2 (q - least).toNat : Nat)
  if negative then -n else n

/-- The order of two numbers, if neither is not a number. -/
def compare? : Binary f → Binary f → Option Ordering
  | nan, _ => none
  | _, nan => none
  | infinite a, infinite b => some (compare b a)
  | infinite a, finite .. => some (if a then .lt else .gt)
  | finite .., infinite b => some (if b then .gt else .lt)
  | finite a m q _, finite b n r _ =>
    some (compare (units a m q f.minExp) (units b n r f.minExp))

end Binary

end FieldRules
