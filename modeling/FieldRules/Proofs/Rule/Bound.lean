/-
Bounds that are taken from another field.

* `effective_of_ok`, `effective_of_error`: the value at the path counts if it is
  usable, otherwise the configured literal does; if the path leads nowhere, that
  is the error;
* `usable?_of_integer?`: a number that shows an integer is usable at an exact
  width if the integer is in range, zero excepted, and then it is this integer;
* `usable?_decimal`: a decimal number is usable as it is, zeros excepted;
* `comparison_values_are_kept`: what bounds follow from this;
* `LengthBound.effective_of_ok`: the value at the path of a length counts if it
  stands for one, otherwise the configured length does.
-/
import FieldRules.Proofs.Number.Integral
import FieldRules.Rule.Bound

namespace FieldRules

namespace NumericBound

variable {b : NumericBound} {owner : Entity} {w : Width} {p : Path}

/-! ### The value at the path -/

/-- The value at the path is the bound if it is usable, and the configured number is otherwise. -/
lemma effective_of_ok (hp : b.path = some p) {v : Value} (hv : owner.resolve p = .ok v) :
    b.effective owner w =
      match usable? v w with
      | some n => .ok n
      | none => b.configured w := by
  cases husable : usable? v w <;> simp [effective, hp, hv, husable]

/-- If the path leads nowhere there is no bound, and that is the error. -/
lemma effective_of_error (hp : b.path = some p) {cause : PathError}
    (h : owner.resolve p = .error cause) : b.effective owner w = .error (.path cause) := by
  simp only [effective, hp, h]

/-- A number that shows an integer is usable at an exact width if the integer is in range and not
zero. -/
lemma usable?_of_integer? {v : Number} {i : Int} (hw : w ∈ Width.exact)
    (hexact : v.width ∈ Width.exact) (h : v.integer? = some i) :
    usable? (.number v) w = if i = 0 then none else w.ofInt? i := by
  have hparse : usable? (.number v) w = (w.ofInt? i).filter fun n => !n.isZero := by
    rw [usable?, Value.literal?, Option.bind_some, Number.parse?_text hw hexact h]
  rw [hparse]
  by_cases hspans : w.Spans i
  · obtain ⟨n, hn, hwidth, hvalue⟩ := Width.ofInt?_of_spans hspans
    have hzero : n.isZero = (i == 0) := Number.isZero_of_integer? (hwidth ▸ hw) hvalue
    rw [hn, Option.filter_some, hzero]
    by_cases hi : i = 0 <;> simp [hi]
  · rw [Width.ofInt?_of_not_spans hspans]
    simp

/-- A decimal number is usable as it is, unless it is zero. -/
lemma usable?_decimal (x : Decimal) :
    usable? (.number (.decimal x)) .decimal
      = if x.mantissa = 0 then none else some (.decimal x) := by
  have hread : Width.decimal.parse? (Number.decimal x).text
      = some (.decimal { x with negative := x.negative && x.mantissa != 0 }) := by
    rw [Width.parse?, Number.isTrimmed_text _ |>.trim_eq, Width.readChars?, Number.text,
      Decimal.read?_text]
    rfl
  rw [usable?, Value.literal?, Option.bind_some, hread]
  by_cases hzero : x.mantissa = 0
  · simp [Number.isZero, Decimal.isZero, hzero]
  · have hsign : (x.mantissa != 0) = true := by simpa using hzero
    simp [Number.isZero, Decimal.isZero, hzero, hsign]

/-! ### The bound -/

/-- A number that shows an integer is the bound if the integer is in range and not zero. -/
lemma effective_of_integer? {v : Number} {i : Int} (hw : w ∈ Width.exact) (hp : b.path = some p)
    (hv : owner.resolve p = .ok (.number v)) (hexact : v.width ∈ Width.exact)
    (hvalue : v.integer? = some i) :
    (i ≠ 0 → w.Spans i →
      ∃ n, n.width = w ∧ n.integer? = some i ∧ b.effective owner w = .ok n) ∧
      (i = 0 ∨ ¬w.Spans i → b.effective owner w = b.configured w) := by
  rw [effective_of_ok hp hv, usable?_of_integer? hw hexact hvalue]
  constructor
  · intro hi hspans
    obtain ⟨n, hn, hwidth, hshown⟩ := Width.ofInt?_of_spans hspans
    exact ⟨n, hwidth, hshown, by rw [if_neg hi, hn]⟩
  · rintro (hi | hspans)
    · rw [if_pos hi]
    · rw [Width.ofInt?_of_not_spans hspans, ite_self]

/-- **Values at comparison paths are kept**: at an exact width, a bound is the integer at its path
if that is in range, zero excepted, and at the width of decimal numbers it is the decimal number at
its path, with sign, mantissa and places, zeros excepted; otherwise it is the configured literal,
which must read at the width. A path that leads nowhere is an error whatever the literal is, and as
long as the value at the path is usable the literal does not matter. -/
theorem comparison_values_are_kept (hw : w ∈ Width.exact) (hp : b.path = some p)
    (owner : Entity) :
    (∀ v i, owner.resolve p = .ok (.number v) → v.width ∈ Width.integers → v.integer? = some i →
      (i ≠ 0 → w.Spans i →
        ∃ n, n.width = w ∧ n.integer? = some i ∧ b.effective owner w = .ok n) ∧
        (i = 0 ∨ ¬w.Spans i → b.effective owner w = b.configured w)) ∧
      (∀ x, w = .decimal → owner.resolve p = .ok (.number (.decimal x)) →
        (x.mantissa ≠ 0 → b.effective owner w = .ok (.decimal x)) ∧
          (x.mantissa = 0 → b.effective owner w = b.configured w)) ∧
      (∀ cause, owner.resolve p = .error cause → b.effective owner w = .error (.path cause)) ∧
      (∀ v n, owner.resolve p = .ok v → v.literal?.bind w.parse? = some n → n.isZero = false →
        b.effective owner w = .ok n) ∧
      (∀ n, w.parse? b.literal = some n → b.configured w = .ok n) ∧
      (w.parse? b.literal = none → b.configured w = .error (.conversion b.literal w)) := by
  refine ⟨?_, ?_, ?_, ?_, ?_, ?_⟩
  · intro v i hv hinteger hvalue
    exact effective_of_integer? hw hp hv (Width.exact_of_mem_integers hinteger) hvalue
  · intro x hdecimal hx
    subst hdecimal
    rw [effective_of_ok hp hx, usable?_decimal]
    constructor
    · intro hne
      rw [if_neg hne]
    · intro hzero
      rw [if_pos hzero]
  · intro cause h
    exact effective_of_error hp h
  · intro v n hv hread hzero
    have husable : usable? v w = some n := by simp [usable?, hread, hzero]
    rw [effective_of_ok hp hv, husable]
  · intro n hread
    rw [configured, hread]
  · intro hread
    rw [configured, hread]

/-- An order with a limit. -/
def limited (limit : Value) : Entity := ⟨"Order", [("Limit", limit)]⟩

/-- The bound at the limit, without a number to fall back to. -/
def limitOnly : NumericBound := ⟨"none", some ⟨["Limit"], false⟩⟩

/-- The decimal number with the longest mantissa, and as many places as there can be. -/
def longestDecimal : Decimal := ⟨true, 79228162514264337593543950335, 28, by decide, by decide⟩

/-- The least short integer, among long ones. -/
def leastShort : Number := .long ⟨-32768, by decide, by decide⟩

/-- The longest decimal number and the least short integer are kept as bounds. -/
theorem limits_are_kept :
    Width.decimal ∈ Width.exact ∧ limitOnly.path = some ⟨["Limit"], false⟩ ∧
      (limited (.number (.decimal longestDecimal))).resolve ⟨["Limit"], false⟩
        = .ok (.number (.decimal longestDecimal)) ∧
      longestDecimal.mantissa ≠ 0 ∧
      limitOnly.effective (limited (.number (.decimal longestDecimal))) .decimal
        = .ok (.decimal longestDecimal) ∧
      Width.short ∈ Width.exact ∧
      (limited (.number leastShort)).resolve ⟨["Limit"], false⟩ = .ok (.number leastShort) ∧
      leastShort.width ∈ Width.integers ∧ leastShort.integer? = some (-32768) ∧
      Width.short.Spans (-32768) ∧
      ∃ n, n.width = .short ∧ n.integer? = some (-32768) ∧
        limitOnly.effective (limited (.number leastShort)) .short = .ok n := by
  have hdecimal : Width.decimal ∈ Width.exact := by decide
  have hshort : Width.short ∈ Width.exact := by decide
  have hspans : Width.short.Spans (-32768) := by decide
  obtain ⟨-, hkept, -⟩ := comparison_values_are_kept (b := limitOnly) hdecimal rfl
    (limited (.number (.decimal longestDecimal)))
  obtain ⟨hinteger, -⟩ := comparison_values_are_kept (b := limitOnly) hshort rfl
    (limited (.number leastShort))
  exact ⟨hdecimal, rfl, rfl, by decide, (hkept longestDecimal rfl rfl).1 (by decide), hshort, rfl,
    by decide, rfl, hspans, (hinteger leastShort _ rfl (by decide) rfl).1 (by decide) hspans⟩

end NumericBound

/-! ### Lengths -/

/-- The length is the one that the value at the path stands for, and otherwise the configured
one. -/
lemma LengthBound.effective_of_ok {b : LengthBound} {owner : Entity} {p : Path} {v : Value}
    (hp : b.path = some p) (hv : owner.resolve p = .ok v) :
    b.effective owner = .ok ((ofValue? v).getD b.length) := by
  simp only [effective, hp, hv]

end FieldRules
