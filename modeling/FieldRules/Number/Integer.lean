/-
Signed integers of a fixed number of bits.

* `Integer bits`: the integers from the negative of `Integer.half bits` up to,
  and without, `Integer.half bits`;
* `ofInt?`: a given integer, if it is in range;
* `read?`, `text`: the numeral of an integer; a sign may stand in front of it.
-/
import FieldRules.Number.Numeral

namespace FieldRules

/-- Half the number of patterns of `bits` bits. -/
def Integer.half (bits : Nat) : Nat := Nat.pow 2 (bits - 1)

/-- The integers that `bits` bits hold in two's complement. -/
structure Integer (bits : Nat) where
  /-- The integer itself. -/
  val : Int
  /-- The least integer is the negative of half the number of patterns. -/
  lower : -(Integer.half bits : Int) ≤ val
  /-- The greatest integer is one less than that half. -/
  upper : val < (Integer.half bits : Int)
  deriving DecidableEq

namespace Integer

variable {bits : Nat}

/-- The given integer, unless it is out of range. -/
def ofInt? (n : Int) : Option (Integer bits) :=
  if h : -(half bits : Int) ≤ n ∧ n < (half bits : Int) then
    some ⟨n, h.1, h.2⟩
  else none

/-- Reads an optional sign and at least one ASCII digit, with a value in range. -/
def read? (cs : List Char) : Option (Integer bits) :=
  let (negative, ds) := Numeral.splitSign cs
  (Numeral.digits? ds).bind fun n => ofInt? (if negative then -(n : Int) else n)

/-- The numeral of an integer, with a minus sign for a negative one. -/
def digits (n : Int) : List Char :=
  if n < 0 then '-' :: Numeral.ofNat n.natAbs else Numeral.ofNat n.natAbs

/-- The numeral of the integer. -/
def text (x : Integer bits) : String :=
  String.ofList (digits x.val)

end Integer

end FieldRules
