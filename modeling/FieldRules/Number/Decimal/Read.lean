/-
Reading decimal numbers.

* `Reading`, `readDigits`: digits, at most one point, and underscores as
  separators; a digit that no longer fits is rounded away after the point and
  an error before it;
* `readPlain?`: the same after an optional sign, which a zero does not keep;
* `readScientific?`: a plain number, `e` or `E`, and a power of ten; a number
  that is rounded to zero here keeps its sign;
* `read?`: either of the two.
-/
import FieldRules.Number.Decimal

namespace FieldRules.Decimal

/-- What has been read of a number without its sign. -/
structure Reading where
  /-- The digits so far, read as one number. -/
  mantissa : Nat
  /-- How many of them came after the point. -/
  scale : Nat
  /-- The point was seen. -/
  pointed : Bool
  /-- A digit was seen. -/
  started : Bool

namespace Reading

/-- Before the first character. -/
def start : Reading := ⟨0, 0, false, false⟩

/-- One more digit. -/
def push (r : Reading) (digit : Nat) : Reading :=
  { r with
    mantissa := r.mantissa * 10 + digit
    scale := if r.pointed then r.scale + 1 else r.scale
    started := true }

end Reading

/-- Whether only digits and separators are left. -/
def onlyDigits (cs : List Char) : Bool :=
  cs.all fun c => c.isDigit || c == '_'

/-- Ends a reading at a digit that no longer fits: half and more round up, in magnitude. A mantissa
that outgrows its bound in this way gives up its last place, which it must have. -/
def roundAt (mantissa scale digit : Nat) (rest : List Char) : Option (Nat × Nat) :=
  if !onlyDigits rest then none
  else if digit < 5 then some (mantissa, scale)
  else if mantissa + 1 < mantissaBound then some (mantissa + 1, scale)
  else if scale = 0 then none
  else some ((mantissa + 1 + 4) / 10, scale - 1)

/-- Short mantissas stay below this number: a tenth of what sixty-four bits hold, less what a byte
holds. -/
def shortBound : Nat := (Nat.pow 2 64 - 1) / 10 - 255

/-- Ends a reading that has all its places. The next digit decides the rounding. Separators before
it are skipped, but after a mantissa that was still short before its last digit a separator counts
as the digit zero. -/
def finishFull (short : Bool) (r : Reading) (rest : List Char) : Option (Nat × Nat) :=
  match if short then rest else rest.dropWhile (· == '_') with
  | [] => some (r.mantissa, r.scale)
  | c :: cs =>
    if c.isDigit then roundAt r.mantissa r.scale (c.toNat - '0'.toNat) cs
    else if c == '_' then roundAt r.mantissa r.scale 0 cs
    else none

/-- Reads digits, at most one point, and separators after the first digit. Gives the mantissa and
the scale. A digit that would make the mantissa too large ends the number: after the point it is
rounded away, before the point it is an error. -/
def readDigits : Reading → List Char → Option (Nat × Nat)
  | r, [] => if r.started then some (r.mantissa, r.scale) else none
  | r, c :: cs =>
    if c.isDigit then
      let digit := c.toNat - '0'.toNat
      let next := r.push digit
      if mantissaBound ≤ next.mantissa then
        if r.pointed then roundAt r.mantissa r.scale digit cs else none
      else if next.pointed && next.scale == maxScale then
        finishFull (r.mantissa < shortBound) next cs
      else readDigits next cs
    else if c == '.' && !r.pointed then readDigits { r with pointed := true } cs
    else if c == '_' && r.started then readDigits r cs
    else none

/-- Reads a number without an exponent. A zero has no sign, whatever was written. -/
def readPlain? (cs : List Char) : Option Decimal :=
  let (negative, rest) := Numeral.splitSign cs
  (readDigits .start rest).bind fun (m, s) => ofParts? (negative && m != 0) m s

/-- The quotient rounded to the nearest integer, a half upwards. -/
def divHalfUp (n d : Nat) : Nat :=
  (2 * n + d) / (2 * d)

/-- The number divided by ten to the power `n`. Places beyond the last possible one are rounded
away, a half in magnitude upwards; the sign stays, even if nothing else does. -/
def shiftDown (x : Decimal) (n : Nat) : Option Decimal :=
  if maxScale < n then none
  else if x.scale + n ≤ maxScale then ofParts? x.negative x.mantissa (x.scale + n)
  else
    ofParts? x.negative (divHalfUp x.mantissa (Nat.pow 10 (x.scale + n - maxScale))) maxScale

/-- The number times ten to the power `n`. Places are used up first; what is left of the power goes
into the mantissa. -/
def shiftUp (x : Decimal) (n : Nat) : Option Decimal :=
  if n ≤ x.scale then ofParts? x.negative x.mantissa (x.scale - n)
  else if maxScale < n then none
  else ofParts? x.negative (x.mantissa * Nat.pow 10 (n - x.scale)) 0

/-- Whether the character announces an exponent. -/
def isExponentMark (c : Char) : Bool :=
  c == 'e' || c == 'E'

/-- Reads a number with an exponent: what stands before the first mark is a plain number, what
stands after it an integer. -/
def readScientific? (cs : List Char) : Option Decimal :=
  match cs.dropWhile (!isExponentMark ·) with
  | [] => none
  | _ :: exponent =>
    (readPlain? (cs.takeWhile (!isExponentMark ·))).bind fun x =>
      match exponent with
      | '-' :: ds => (Numeral.natural? ds).bind x.shiftDown
      | ds => (Numeral.natural? ds).bind x.shiftUp

/-- Reads a decimal number. -/
def read? (cs : List Char) : Option Decimal :=
  (readPlain? cs).or (readScientific? cs)

end FieldRules.Decimal
