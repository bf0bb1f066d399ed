/-
Decimal numbers are read as they were written, with all their places.

* `readDigits_whole`, `readDigits_places`: digits in front of the point and
  behind it, as long as the mantissa and the places fit;
* `readDigits_fixed`: so a mantissa and its places are read together;
* `Decimal.read?_text`: a number is read as itself, but for the sign of a zero,
  which is lost;
* `Decimal.coefficient`, `units_eq_iff`: the signed mantissa of a number, which
  together with the places tells the value.
-/
import FieldRules.Number.Decimal.Read
import FieldRules.Proofs.Number.Numeral

namespace FieldRules.Decimal

open Numeral

/-! ### Digits -/

/-- Digits in front of the point go into the mantissa, while it fits. -/
lemma readDigits_whole (ds rest : List Char) {r : Reading} (hpointed : r.pointed = false)
    (hdigits : ∀ c ∈ ds, c.isDigit = true)
    (hfits : Nat.ofDigitChars 10 ds r.mantissa < mantissaBound) :
    readDigits r (ds ++ rest) =
      readDigits { r with
        mantissa := Nat.ofDigitChars 10 ds r.mantissa
        started := r.started || !ds.isEmpty } rest := by
  induction ds generalizing r with
  | nil => simp [Nat.ofDigitChars_nil]
  | cons c ds ih =>
      have hc : c.isDigit = true := hdigits c (by simp)
      have hnext : (r.push (c.toNat - '0'.toNat)).mantissa
          = 10 * r.mantissa + (c.toNat - '0'.toNat) := by
        rw [Reading.push, Nat.mul_comm]
      rw [Nat.ofDigitChars_cons, ← hnext] at hfits
      have hle := le_ofDigitChars ds (r.push (c.toNat - '0'.toNat)).mantissa
      have hstep : readDigits r (c :: ds ++ rest)
          = readDigits (r.push (c.toNat - '0'.toNat)) (ds ++ rest) := by
        rw [List.cons_append, readDigits, if_pos hc, if_neg (by omega)]
        simp [Reading.push, hpointed]
      rw [hstep, ih (by simpa [Reading.push] using hpointed)
        (fun d hd => hdigits d (by simp [hd])) hfits, Nat.ofDigitChars_cons, ← hnext]
      simp [Reading.push, hpointed]

/-- Digits behind the point go into the mantissa and the scale, while both fit. -/
lemma readDigits_places (ds : List Char) {r : Reading} (hpointed : r.pointed = true)
    (hstarted : r.started = true) (hdigits : ∀ c ∈ ds, c.isDigit = true)
    (hfits : Nat.ofDigitChars 10 ds r.mantissa < mantissaBound)
    (hscale : r.scale + ds.length ≤ maxScale) :
    readDigits r ds = some (Nat.ofDigitChars 10 ds r.mantissa, r.scale + ds.length) := by
  induction ds generalizing r with
  | nil => simp [readDigits, hstarted, Nat.ofDigitChars_nil]
  | cons c ds ih =>
      have hc : c.isDigit = true := hdigits c (by simp)
      have hnext : (r.push (c.toNat - '0'.toNat)).mantissa
          = 10 * r.mantissa + (c.toNat - '0'.toNat) := by
        rw [Reading.push, Nat.mul_comm]
      have hplace : (r.push (c.toNat - '0'.toNat)).scale = r.scale + 1 := by
        simp [Reading.push, hpointed]
      rw [Nat.ofDigitChars_cons, ← hnext] at hfits ⊢
      rw [List.length_cons] at hscale ⊢
      have hle := le_ofDigitChars ds (r.push (c.toNat - '0'.toNat)).mantissa
      rw [readDigits, if_pos hc, if_neg (by omega)]
      -- The last possible place ends the reading; then there are no digits left.
      by_cases hlast : (r.push (c.toNat - '0'.toNat)).scale = maxScale
      · obtain rfl : ds = [] := List.eq_nil_of_length_eq_zero (by omega)
        simp [Reading.push, hpointed] at hlast
        simp [Reading.push, hpointed, hlast, finishFull, Nat.ofDigitChars_nil]
      · have hmore : ¬((r.push (c.toNat - '0'.toNat)).pointed
            && (r.push (c.toNat - '0'.toNat)).scale == maxScale) = true := by
          rw [Bool.and_eq_true, beq_iff_eq]
          exact fun h => hlast h.2
        rw [if_neg hmore, ih (by simpa [Reading.push] using hpointed) (by simp [Reading.push])
          (fun d hd => hdigits d (by simp [hd])) hfits (by omega), hplace]
        congr 2
        omega

/-- A mantissa and its places are read together. -/
lemma readDigits_fixed {mantissa scale : Nat} (hmantissa : mantissa < mantissaBound)
    (hscale : scale ≤ maxScale) :
    readDigits .start (fixed mantissa scale) = some (mantissa, scale) := by
  by_cases hplaces : scale = 0
  · subst hplaces
    have hvalue : Nat.ofDigitChars 10 (ofNat mantissa) 0 = mantissa := value_ofNat mantissa
    rw [fixed_zero, ← List.append_nil (ofNat mantissa), readDigits_whole _ _ rfl
      (List.all_eq_true.mp (all_isDigit_ofNat mantissa)) (by rwa [Reading.start, hvalue])]
    simp [readDigits, Reading.start, hvalue, ofNat_ne_nil]
  · obtain ⟨whole, fraction, hfixed, hdigits, hwhole, hfraction⟩ := fixed_eq mantissa hplaces
    have hmem : ∀ c, c ∈ whole ∨ c ∈ fraction → c.isDigit = true := by
      intro c hc
      rw [← List.mem_append, hdigits] at hc
      exact isDigit_of_mem_padded hc
    have hvalue : Nat.ofDigitChars 10 fraction (Nat.ofDigitChars 10 whole 0) = mantissa := by
      rw [← Nat.ofDigitChars_append, hdigits]
      exact value_padded mantissa (scale + 1)
    have hfits : Nat.ofDigitChars 10 whole 0 < mantissaBound := by
      have hle := le_ofDigitChars fraction (Nat.ofDigitChars 10 whole 0)
      omega
    rw [hfixed, readDigits_whole _ _ rfl (fun c hc => hmem c (.inl hc)) hfits, readDigits,
      if_neg (by decide)]
    simp only [Reading.start, beq_self_eq_true, Bool.not_false, Bool.and_self, if_true]
    rw [readDigits_places fraction rfl (by simp [hwhole]) (fun c hc => hmem c (.inr hc))]
    · simp [hvalue, hfraction]
    · rw [hvalue]
      exact hmantissa
    · simp [hfraction, hscale]

/-! ### Numbers -/

lemma toList_text (x : Decimal) :
    x.text.toList = signed x.negative (fixed x.mantissa x.scale) := by
  rw [text, String.toList_ofList, signed]

/-- A numeral without an exponent is read with all its places. A zero has no sign then. -/
lemma readPlain?_signed (negative : Bool) {mantissa scale : Nat}
    (hmantissa : mantissa < mantissaBound) (hscale : scale ≤ maxScale) :
    readPlain? (signed negative (fixed mantissa scale))
      = some ⟨negative && mantissa != 0, mantissa, scale, hmantissa, hscale⟩ := by
  obtain ⟨⟨c, r, hcons, hdigit⟩, -⟩ := fixed_spelling mantissa scale
  have hread := readDigits_fixed hmantissa hscale
  rw [hcons] at hread
  rw [readPlain?, hcons, splitSign_signed negative hdigit]
  simp [hread, ofParts?, hmantissa, hscale]

/-- A number is read as it was written, but for the sign of a zero. -/
lemma read?_text (x : Decimal) :
    read? x.text.toList = some { x with negative := x.negative && x.mantissa != 0 } := by
  rw [read?, toList_text, readPlain?_signed x.negative x.mantissa_lt x.scale_le]
  rfl

/-! ### Values -/

/-- The signed mantissa of a number. -/
def coefficient (x : Decimal) : Int :=
  withSign x.negative x.mantissa

lemma units_eq (x : Decimal) : x.units = x.coefficient * 10 ^ (maxScale - x.scale) := by
  rw [units, coefficient, withSign]
  split
  · rw [Int.neg_mul]
    simp
  · simp

/-- Numbers with as many places have one value exactly if they have one signed mantissa. -/
lemma units_eq_iff {x y : Decimal} (hscale : x.scale = y.scale) :
    x.units = y.units ↔ x.coefficient = y.coefficient := by
  have hpow : (10 : Int) ^ (maxScale - y.scale) ≠ 0 := Int.ne_of_gt (Int.pow_pos (by decide))
  rw [units_eq, units_eq, hscale, Int.mul_eq_mul_right_iff hpow]

end FieldRules.Decimal
