/-
Reading floating-point numbers.

* `divNearest`: a quotient rounded to the nearest integer, a half to the even
  neighbour;
* `ofRatio`: the number nearest to a positive ratio;
* `ofDecimal`: the number nearest to `m * 10 ^ e`;
* `read?`: the spellings of infinity and of not a number, in letters of any
  case, and digits with an optional point and exponent.
-/
import FieldRules.Number.Binary
import FieldRules.Number.Numeral

namespace FieldRules.Binary

variable {f : Format}

/-- The quotient rounded to the nearest integer, a half to the even neighbour. -/
def divNearest (n d : Nat) : Nat :=
  let k := n / d
  match compare (2 * (n % d)) d with
  | .lt => k
  | .gt => k + 1
  | .eq => k + k % 2

/-- The exponent of the leading bit of the positive ratio `n / d`. -/
def leadingExp (n d : Nat) : Int :=
  let e : Int := (n.log2 : Int) - d.log2
  if d * Nat.pow 2 e.toNat ≤ n * Nat.pow 2 (-e).toNat then e else e - 1

/-- The number of the format that is nearest to the positive ratio `n / d`, of two equally near
ones the even one. -/
def ofRatio (negative : Bool) (n d : Nat) : Binary f :=
  let q := max f.minExp (leadingExp n d - (f.precision - 1 : Nat))
  let m := divNearest (n * Nat.pow 2 (-q).toNat) (d * Nat.pow 2 q.toNat)
  if m = Nat.pow 2 f.precision then ofUnits negative (Nat.pow 2 (f.precision - 1)) (q + 1)
  else ofUnits negative m q

/-- The number of the format that is nearest to `m * 10 ^ e`. With `k` digits before the point the
value is below `10 ^ k` and, unless it is zero, at least `10 ^ (k - 1)`; so a large or small `k`
decides without computing the power. -/
def ofDecimal (negative : Bool) (m : Nat) (e : Int) : Binary f :=
  let k := (Numeral.ofNat m).length + e
  if m = 0 then ofUnits negative 0 f.minExp
  else if f.precision + f.maxExp < k then infinite negative
  else if k < f.minExp - 1 then ofUnits negative 0 f.minExp
  else ofRatio negative (m * Nat.pow 10 e.toNat) (Nat.pow 10 (-e).toNat)

/-- Reads what may follow the digits: nothing, or `e` or `E` and an integer. -/
def readExponent? : List Char → Option Int
  | [] => some 0
  | c :: cs =>
    if c == 'e' || c == 'E' then
      let (negative, ds) := Numeral.splitSign cs
      (Numeral.digits? ds).map fun n => if negative then -(n : Int) else n
    else none

/-- Reads digits with an optional point before, between or after them, and an exponent. -/
def readDigits? (negative : Bool) (cs : List Char) : Option (Binary f) :=
  let whole := cs.takeWhile Char.isDigit
  let rest := cs.dropWhile Char.isDigit
  let (places, rest) :=
    match rest with
    | '.' :: r => (r.takeWhile Char.isDigit, r.dropWhile Char.isDigit)
    | r => ([], r)
  if (whole ++ places).isEmpty then none
  else
    (readExponent? rest).map fun e =>
      ofDecimal negative (Numeral.value (whole ++ places)) (e - places.length)

/-- Reads a number after an optional sign. -/
def read? (cs : List Char) : Option (Binary f) :=
  let (negative, rest) := Numeral.splitSign cs
  let word := String.ofList (rest.map Char.toLower)
  if word == "inf" || word == "infinity" then some (infinite negative)
  else if word == "nan" then some nan
  else readDigits? negative rest

end FieldRules.Binary
