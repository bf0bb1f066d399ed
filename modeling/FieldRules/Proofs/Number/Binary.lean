/-
Floating-point numbers that compare as equal.

* `Format.Canonical.le_exp`: of two canonical pairs with one value neither has
  the greater exponent;
* `Format.Canonical.unique`: so a value has one canonical pair;
* `Binary.eq_or_isZero`: equal numbers are the same, or they are zeros.
-/
import FieldRules.Number.Binary
import FieldRules.Proofs.Number.Numeral

namespace FieldRules

namespace Format.Canonical

variable {f : Format} {m n : Nat} {q r : Int}

/-- Of two canonical pairs with one value the second has no greater exponent: its significand would
be half the first one or less, but it has to be as long as the exponent lets it be. -/
lemma le_exp (hm : f.Canonical m q) (hn : f.Canonical n r)
    (h : m * 2 ^ (q - f.minExp).toNat = n * 2 ^ (r - f.minExp).toNat) : r ≤ q := by
  obtain ⟨hm_lt, hq, -, -⟩ := hm
  obtain ⟨-, -, -, hlong⟩ := hn
  refine Int.not_lt.mp fun hlt => ?_
  have hlong : 2 ^ (f.precision - 1) ≤ n := by
    rcases hlong with hleast | hlong
    · omega
    · exact hlong
  have hexp : (r - f.minExp).toNat = (r - q - 1).toNat + 1 + (q - f.minExp).toNat := by omega
  have hm_eq : m = n * 2 ^ ((r - q - 1).toNat + 1) := by
    rw [hexp, Nat.pow_add, ← Nat.mul_assoc] at h
    exact Nat.eq_of_mul_eq_mul_right (Nat.two_pow_pos _) h
  have hbits : 2 ^ f.precision ≤ 2 ^ (f.precision - 1) * 2 := by
    rw [← Nat.pow_succ]
    exact Nat.pow_le_pow_right (by decide) (by omega)
  have hdouble : n * 2 ≤ m := by
    have hle : n ≤ n * 2 ^ (r - q - 1).toNat := Nat.le_mul_of_pos_right n (Nat.two_pow_pos _)
    rw [hm_eq, Nat.pow_succ, ← Nat.mul_assoc]
    exact Nat.mul_le_mul_right 2 hle
  have hm_lt : m < 2 ^ f.precision := hm_lt
  omega

/-- A value has one canonical pair. -/
lemma unique (hm : f.Canonical m q) (hn : f.Canonical n r)
    (h : m * 2 ^ (q - f.minExp).toNat = n * 2 ^ (r - f.minExp).toNat) : m = n ∧ q = r := by
  obtain rfl : q = r := Int.le_antisymm (le_exp hn hm h.symm) (le_exp hm hn h)
  exact ⟨Nat.eq_of_mul_eq_mul_right (Nat.two_pow_pos _) h, rfl⟩

end Format.Canonical

namespace Binary

variable {f : Format}

lemma units_eq (negative : Bool) (m : Nat) (q least : Int) :
    units negative m q least = Numeral.withSign negative (m * 2 ^ (q - least).toNat) := rfl

/-- Numbers that compare as equal are the same, or they are zeros. -/
lemma eq_or_isZero {x y : Binary f} (h : x.compare? y = some .eq) :
    x = y ∨ (x.isZero = true ∧ y.isZero = true) := by
  cases x with
  | nan => cases h
  | infinite a =>
      cases y with
      | nan => cases h
      | infinite b =>
          left
          cases a <;> cases b <;> first | rfl | cases h
      | finite => cases a <;> cases h
  | finite a m q hm =>
      cases y with
      | nan => cases h
      | infinite b => cases b <;> cases h
      | finite b n r hn =>
          have hunits : units a m q f.minExp = units b n r f.minExp := by
            simpa [compare?, Int.compare_eq_eq] using h
          rw [units_eq, units_eq, Numeral.withSign_eq_iff] at hunits
          obtain ⟨hmagnitude, hsign⟩ := hunits
          obtain ⟨rfl, rfl⟩ := hm.unique hn hmagnitude
          rcases hsign with rfl | hnone
          · exact .inl rfl
          · have hm_zero : m = 0 := by
              rcases Nat.mul_eq_zero.mp hnone with hm_zero | hpow
              · exact hm_zero
              · exact absurd hpow (Nat.two_pow_pos _).ne'
            right
            simp [isZero, hm_zero]

end Binary

end FieldRules
