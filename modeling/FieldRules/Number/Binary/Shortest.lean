/-
Writing floating-point numbers with the fewest digits that read back.

* `Neighbourhood`: the numbers that are rounded to a given one, in fourths of
  its last bit;
* `Neighbourhood.onGrid?`: the number on a decimal grid that lies in it, the
  nearer of two, of two equally near ones the larger;
* `shortest`: the digits of the coarsest grid that has one;
* `text`: all digits in their places, never an exponent;
* `exactText`: a form that tells the width of a number from the absence of a
  point, with an exponent for large and small numbers.
-/
import FieldRules.Number.Binary
import FieldRules.Number.Numeral

namespace FieldRules.Binary

/-- The numbers around `m * 2 ^ q` that are rounded to it. All three numbers are in units of
`2 ^ exp`. -/
structure Neighbourhood where
  /-- The least number, if it belongs to the neighbourhood. -/
  low : Nat
  /-- The number itself. -/
  mid : Nat
  /-- The greatest number, if it belongs to the neighbourhood. -/
  high : Nat
  /-- Whether the two ends belong to it. -/
  closed : Bool
  /-- The exponent of a unit. -/
  exp : Int

/-- The neighbourhood of a positive number. Below a power of two the numbers lie twice as close. An
end is as near to the next number as to this one, so it is rounded here when `m` is even. -/
def neighbourhood (f : Format) (m : Nat) (q : Int) : Neighbourhood where
  low := if m = Nat.pow 2 (f.precision - 1) ∧ f.minExp < q then 4 * m - 1 else 4 * m - 2
  mid := 4 * m
  high := 4 * m + 2
  closed := m % 2 == 0
  exp := q - 2

namespace Neighbourhood

/-- Whether `n / d` units lie in the neighbourhood. -/
def contains (b : Neighbourhood) (n d : Nat) : Bool :=
  if b.closed then b.low * d ≤ n && n ≤ b.high * d else b.low * d < n && n < b.high * d

/-- The multiple of `10 ^ k` in the neighbourhood that is nearest to its middle, as a number of
steps of the grid. With `n / d` units in one step, the candidates are the two multiples around the
middle. -/
def onGrid? (b : Neighbourhood) (k : Int) : Option Nat :=
  let n := Nat.pow 10 k.toNat * Nat.pow 2 (-b.exp).toNat
  let d := Nat.pow 10 (-k).toNat * Nat.pow 2 b.exp.toNat
  let below := b.mid * d / n
  let above := below + 1
  match b.contains (below * n) d, b.contains (above * n) d with
  | true, true =>
    some (if above * n - b.mid * d ≤ b.mid * d - below * n then above else below)
  | true, false => some below
  | false, true => some above
  | false, false => none

/-- The first grid that has a number, of `10 ^ k`, `10 ^ (k - 1)` and so on, with that number. -/
def firstGrid (b : Neighbourhood) : Nat → Int → Nat × Int
  | 0, k => (0, k)
  | fuel + 1, k =>
    match b.onGrid? k with
    | some n => (n, k)
    | none => firstGrid b fuel (k - 1)

end Neighbourhood

/-- The power of ten of the leading digit of the positive ratio `n / d`. -/
def leadingPower (n d : Nat) : Int :=
  if d ≤ n then (Numeral.ofNat (n / d)).length - 1
  else
    let k := (Numeral.ofNat (d / n)).length
    if d ≤ n * Nat.pow 10 (k - 1) then 1 - (k : Int) else -(k : Int)

/-- The number without its trailing zeros, each of which adds one to the exponent. -/
def dropZeros : Nat → Nat → Int → Nat × Int
  | 0, n, k => (n, k)
  | fuel + 1, n, k => if n ≠ 0 ∧ n % 10 = 0 then dropZeros fuel (n / 10) (k + 1) else (n, k)

/-- The fewest digits that read back as the positive number `m * 2 ^ q`, as a number without
trailing zeros and the power of ten of its last digit. Eighteen grids are enough for either
format. -/
def shortest (f : Format) (m : Nat) (q : Int) : Nat × Int :=
  let top := leadingPower (m * Nat.pow 2 q.toNat) (Nat.pow 2 (-q).toNat)
  let (n, k) := (neighbourhood f m q).firstGrid 18 top
  dropZeros 18 n k

/-- The number `n * 10 ^ k` with every digit in its place. -/
def positional (n : Nat) (k : Int) : List Char :=
  Numeral.fixed (n * Nat.pow 10 k.toNat) (-k).toNat

/-- A minus sign if there is one to write. -/
def signed (negative : Bool) (cs : List Char) : String :=
  String.ofList (if negative then '-' :: cs else cs)

variable {f : Format}

/-- The number with every digit in its place. -/
def text : Binary f → String
  | nan => "NaN"
  | infinite negative => signed negative "inf".toList
  | finite negative m q _ =>
    if m = 0 then signed negative ['0']
    else
      let (n, k) := shortest f m q
      signed negative (positional n k)

/-- The number `n * 10 ^ k` with one digit before the point, no point without places, and the
exponent. -/
def scientific (n : Nat) (k : Int) : List Char :=
  let places := (Numeral.ofNat n).length - 1
  let e : Int := k + places
  Numeral.fixed n places ++ 'e' :: (if e < 0 then ['-'] else []) ++ Numeral.ofNat e.natAbs

/-- Leading digits at this power of ten and above are written with an exponent. -/
def exponentFrom : Int := 16

/-- Leading digits below this power of ten are written with an exponent. -/
def exponentBelow : Int := -4

/-- The number with a point or an exponent. -/
def exactText : Binary f → String
  | nan => "NaN"
  | infinite negative => signed negative "inf".toList
  | finite negative m q _ =>
    if m = 0 then signed negative "0.0".toList
    else
      let (n, k) := shortest f m q
      let lead := k + (Numeral.ofNat n).length - 1
      if exponentFrom ≤ lead || lead < exponentBelow then signed negative (scientific n k)
      else if 0 ≤ k then signed negative (positional n k ++ ".0".toList)
      else signed negative (positional n k)

end FieldRules.Binary
