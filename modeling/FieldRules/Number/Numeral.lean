/-
Decimal numerals: the spellings that every width of number is made of.

* `splitSign`: a leading `+` or `-` and the rest;
* `digits?`: the value of a text of ASCII digits, at least one;
* `natural?`: the same after an optional `+`;
* `fixed`: a number of tenths, hundredths, … written with that many places.
-/
namespace FieldRules.Numeral

/-- Whether the text begins with a minus sign, and the text after its sign. -/
def splitSign : List Char → Bool × List Char
  | '-' :: r => (true, r)
  | '+' :: r => (false, r)
  | r => (false, r)

/-- The number that a run of digits stands for. -/
def value (ds : List Char) : Nat :=
  Nat.ofDigitChars 10 ds 0

/-- The digits of a number, without leading zeros. -/
def ofNat (n : Nat) : List Char :=
  Nat.toDigits 10 n

@[simp] theorem value_ofNat (n : Nat) : value (ofNat n) = n :=
  Nat.ofDigitChars_ten_toDigits

theorem ofNat_ne_nil (n : Nat) : ofNat n ≠ [] :=
  List.ne_nil_of_length_pos Nat.length_toDigits_pos

theorem all_isDigit_ofNat (n : Nat) : (ofNat n).all Char.isDigit = true :=
  List.all_eq_true.2 fun _ h => Nat.isDigit_of_mem_toDigits (by decide) (by decide) h

/-- Reads a text of ASCII digits only, at least one. -/
def digits? (cs : List Char) : Option Nat :=
  if !cs.isEmpty && cs.all Char.isDigit then some (value cs) else none

theorem digits?_ofNat (n : Nat) : digits? (ofNat n) = some n := by
  have h : (ofNat n).isEmpty = false := by simpa using ofNat_ne_nil n
  simp [digits?, h, all_isDigit_ofNat]

/-- Reads ASCII digits after an optional plus sign. -/
def natural? : List Char → Option Nat
  | '+' :: r => digits? r
  | r => digits? r

/-- The digits of `n` with leading zeros up to `width`. -/
def padded (n width : Nat) : List Char :=
  let ds := ofNat n
  List.replicate (width - ds.length) '0' ++ ds

/-- Writes `n` divided by ten to the power `places`, with exactly that many places and at least one
digit before the point; no point without places. -/
def fixed (n places : Nat) : List Char :=
  let ds := padded n (places + 1)
  let whole := ds.length - places
  if places = 0 then ds else ds.take whole ++ '.' :: ds.drop whole

end FieldRules.Numeral
