/-
Numerals are read as they were written.

* `value_padded`: leading zeros do not count;
* `fixed_eq`: with places, a numeral is the digits in front of the point, of
  which there is one at least, the point and the places;
* `Numeral.signed`, `splitSign_signed`: a numeral behind its sign;
* `Integer.read?_signed`, `Integer.read?_fixed`: digits alone are read as an
  integer if it is in range, and digits with a point never are.
-/
import FieldRules.Number.Integer
import FieldRules.Proofs.Text.Trimming
import Mathlib.Algebra.Group.Int.Defs
import Mathlib.Algebra.Group.Nat.Defs

namespace FieldRules

namespace Numeral

variable {ds : List Char} {n places : Nat}

/-! ### Digits -/

/-- A digit is not blank. -/
lemma isBlankChar_of_isDigit {c : Char} (h : c.isDigit = true) : Text.isBlankChar c = false := by
  have hrange := Char.isDigit_iff_toNat.mp h
  have hzero : '0'.toNat = 48 := rfl
  have hnine : '9'.toNat = 57 := rfl
  simp only [Text.isBlankChar, Bool.or_eq_false_iff, Bool.and_eq_false_iff, decide_eq_false_iff_not,
    beq_eq_false_iff_ne]
  omega

/-- More digits do not make a number smaller. -/
lemma le_ofDigitChars (ds : List Char) (init : Nat) : init ≤ Nat.ofDigitChars 10 ds init := by
  rw [Nat.ofDigitChars_eq_ofDigitChars_zero]
  have hpow : 1 ≤ 10 ^ ds.length := Nat.one_le_pow _ _ (by omega)
  calc init = 1 * init := (Nat.one_mul init).symm
    _ ≤ 10 ^ ds.length * init := Nat.mul_le_mul_right init hpow
    _ ≤ 10 ^ ds.length * init + Nat.ofDigitChars 10 ds 0 := Nat.le_add_right _ _

/-- Leading zeros do not count. -/
lemma value_padded (n width : Nat) : value (padded n width) = n := by
  rw [padded, value, Nat.ofDigitChars_append, Nat.ofDigitChars_replicate_zero, Nat.mul_zero]
  exact value_ofNat n

lemma isDigit_of_mem_padded {width : Nat} {c : Char} (h : c ∈ padded n width) :
    c.isDigit = true := by
  rw [padded, List.mem_append] at h
  rcases h with h | h
  · rw [List.eq_of_mem_replicate h]
    rfl
  · exact List.all_eq_true.mp (all_isDigit_ofNat n) c h

lemma le_length_padded (n width : Nat) : width ≤ (padded n width).length := by
  rw [padded, List.length_append, List.length_replicate]
  omega

/-- One digit is there anyway. -/
lemma padded_one (n : Nat) : padded n 1 = ofNat n := by
  have hpos : 0 < (ofNat n).length := List.length_pos_of_ne_nil (ofNat_ne_nil n)
  have hnone : 1 - (ofNat n).length = 0 := by omega
  rw [padded, hnone]
  rfl

/-! ### Places -/

/-- Without places, a numeral is the digits of the number. -/
lemma fixed_zero (n : Nat) : fixed n 0 = ofNat n := by
  rw [fixed, if_pos rfl, padded_one]

/-- With places, a numeral is the digits in front of the point, the point and the places. -/
lemma fixed_eq (n : Nat) (hplaces : places ≠ 0) :
    ∃ whole fraction, fixed n places = whole ++ '.' :: fraction ∧
      whole ++ fraction = padded n (places + 1) ∧ whole ≠ [] ∧ fraction.length = places := by
  have hlength := le_length_padded n (places + 1)
  refine ⟨(padded n (places + 1)).take ((padded n (places + 1)).length - places),
    (padded n (places + 1)).drop ((padded n (places + 1)).length - places), ?_,
    List.take_append_drop _ _, ?_, ?_⟩
  · rw [fixed, if_neg hplaces]
  · refine List.ne_nil_of_length_pos ?_
    rw [List.length_take]
    omega
  · rw [List.length_drop]
    omega

/-- A numeral begins with a digit, and has nothing but digits and points. -/
lemma fixed_spelling (n places : Nat) :
    (∃ c r, fixed n places = c :: r ∧ c.isDigit = true) ∧
      ∀ c ∈ fixed n places, c.isDigit = true ∨ c = '.' := by
  by_cases hplaces : places = 0
  · subst hplaces
    have hdigits : ∀ c ∈ ofNat n, c.isDigit = true := List.all_eq_true.mp (all_isDigit_ofNat n)
    obtain ⟨c, r, hcons⟩ := List.exists_cons_of_ne_nil (ofNat_ne_nil n)
    rw [fixed_zero]
    exact ⟨⟨c, r, hcons, hdigits c (by simp [hcons])⟩, fun d hd => .inl (hdigits d hd)⟩
  · obtain ⟨whole, fraction, hfixed, hdigits, hwhole, -⟩ := fixed_eq n hplaces
    have hmem : ∀ c, c ∈ whole ∨ c ∈ fraction → c.isDigit = true := by
      intro c hc
      rw [← List.mem_append, hdigits] at hc
      exact isDigit_of_mem_padded hc
    rw [hfixed]
    constructor
    · obtain ⟨c, r, hcons⟩ := List.exists_cons_of_ne_nil hwhole
      exact ⟨c, r ++ '.' :: fraction, by rw [hcons]; rfl, hmem c (.inl (by simp [hcons]))⟩
    · intro d hd
      rw [List.mem_append, List.mem_cons] at hd
      rcases hd with hd | rfl | hd
      · exact .inl (hmem d (.inl hd))
      · exact .inr rfl
      · exact .inl (hmem d (.inr hd))

/-! ### Signs -/

/-- A numeral behind a minus sign, if there is one to write. -/
def signed (negative : Bool) (cs : List Char) : List Char :=
  if negative then '-' :: cs else cs

/-- The integer with the given sign and magnitude. -/
def withSign (negative : Bool) (n : Nat) : Int :=
  if negative then -(n : Int) else n

/-- Signed magnitudes are equal if the magnitudes are, and the signs, unless there is no
magnitude. -/
lemma withSign_eq_iff {a b : Bool} {m n : Nat} :
    withSign a m = withSign b n ↔ m = n ∧ (a = b ∨ m = 0) := by
  cases a <;> cases b <;> simp [withSign] <;> omega

/-- The sign in front of a digit is told from it. -/
lemma splitSign_signed (negative : Bool) {c : Char} {r : List Char} (hc : c.isDigit = true) :
    splitSign (signed negative (c :: r)) = (negative, c :: r) := by
  cases negative with
  | true => rfl
  | false =>
      have hminus : c ≠ '-' := by
        rintro rfl
        exact absurd hc (by decide)
      have hplus : c ≠ '+' := by
        rintro rfl
        exact absurd hc (by decide)
      simp [signed, splitSign, hminus, hplus]

/-- A numeral with its sign has no blank character. -/
lemma isTrimmed_signed_fixed (negative : Bool) (n places : Nat) :
    Text.IsTrimmed (signed negative (fixed n places)) := by
  refine Text.isTrimmed_of_forall fun c hc => ?_
  have hchar : c = '-' ∨ c.isDigit = true ∨ c = '.' := by
    cases negative with
    | true =>
        rcases List.mem_cons.mp hc with rfl | hc
        · exact .inl rfl
        · exact .inr ((fixed_spelling n places).2 c hc)
    | false => exact .inr ((fixed_spelling n places).2 c hc)
  rcases hchar with rfl | hdigit | rfl
  · rfl
  · exact isBlankChar_of_isDigit hdigit
  · rfl

end Numeral

/-! ### Integers -/

namespace Integer

open Numeral

variable {bits : Nat}

/-- The numeral of an integer is its magnitude behind its sign. -/
lemma digits_eq_signed (i : Int) :
    digits i = signed (decide (i < 0)) (Numeral.ofNat i.natAbs) := by
  rw [digits, signed]
  simp

/-- A numeral without places is read as the integer that it was written for, if that is in range. -/
lemma read?_signed (negative : Bool) (n : Nat) :
    (read? (signed negative (Numeral.ofNat n)) : Option (Integer bits))
      = ofInt? (withSign negative n) := by
  obtain ⟨c, r, hcons⟩ := List.exists_cons_of_ne_nil (ofNat_ne_nil n)
  have hdigit : c.isDigit = true :=
    List.all_eq_true.mp (all_isDigit_ofNat n) c (by simp [hcons])
  have hdigits : digits? (c :: r) = some n := by rw [← hcons, digits?_ofNat]
  rw [read?, hcons, splitSign_signed negative hdigit]
  simp [hdigits, withSign]

/-- A numeral with places is never read as an integer. -/
lemma read?_fixed (negative : Bool) (n : Nat) {places : Nat} (hplaces : places ≠ 0) :
    (read? (signed negative (fixed n places)) : Option (Integer bits)) = none := by
  obtain ⟨⟨c, r, hcons, hdigit⟩, -⟩ := fixed_spelling n places
  obtain ⟨whole, fraction, hfixed, -⟩ := fixed_eq n hplaces
  have hpoint : '.' ∈ c :: r := by simp [← hcons, hfixed]
  have hdigits : digits? (c :: r) = none := by
    rw [digits?, if_neg]
    intro h
    have hall : (c :: r).all Char.isDigit = true := (Bool.and_eq_true _ _ ▸ h).2
    exact absurd (List.all_eq_true.mp hall '.' hpoint) (by decide)
  rw [read?, hcons, splitSign_signed negative hdigit]
  simp [hdigits]

end Integer

end FieldRules
