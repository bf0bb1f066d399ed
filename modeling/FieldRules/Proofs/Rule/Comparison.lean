/-
The three comparisons of a number, beside each other.

* `NumericBound.width_of_effective`: a bound has the width that it is asked for;
* `Comparison.holds_inRange`: at an exact width, a range is what is neither below
  the one bound nor above the other;
* `holds_greaterThan_of_lessThan`: nothing is below and above one bound;
* `Comparison.firstReport`, `firstReport_eq`: what a rule reports on the first
  number that it sees is what the comparison says;
* `comparisons_are_consistent`: how the three go together.
-/
import FieldRules.Proofs.Number.Order
import FieldRules.Proofs.Outcomes
import FieldRules.Rule.Check

namespace FieldRules

/-- A bound has the width that it is asked for. -/
lemma NumericBound.width_of_effective {b : NumericBound} {owner : Entity} {w : Width} {n : Number}
    (h : b.effective owner w = .ok n) : n.width = w := by
  have hconfigured : b.configured w = .ok n → n.width = w := by
    intro h
    rw [configured] at h
    split at h
    · cases h
      exact Number.width_of_readChars? ‹_›
    · cases h
  rw [effective] at h
  split at h
  · exact hconfigured h
  · split at h
    · cases h
    · split at h
      · rename_i husable
        cases h
        obtain ⟨hread, -⟩ := Option.filter_eq_some_iff.mp husable
        obtain ⟨s, -, hs⟩ := Option.bind_eq_some_iff.mp hread
        exact Number.width_of_readChars? hs
      · exact hconfigured h

namespace Comparison

variable {a b : NumericBound} {owner : Entity} {n : Number}

/-! ### Verdicts -/

/-- A number of an exact width is in a range if it is neither below the first bound nor above the
second; what the bounds have as errors, the range has in this order. -/
lemma holds_inRange (a b : NumericBound) (owner : Entity) (hexact : n.width ∈ Width.exact) :
    (inRange a b).holds owner n =
      ((lessThan a).holds owner n).bind fun below =>
        ((greaterThan b).holds owner n).map fun above => !below && !above := by
  rw [holds, holds, holds]
  cases hlow : a.effective owner n.width with
  | error e => rfl
  | ok low =>
      cases hhigh : b.effective owner n.width with
      | error e => rfl
      | ok high =>
          have hwidth := NumericBound.width_of_effective hlow
          have hbelow : low.atMost n = !n.less low :=
            Number.atMost_eq_not_less (hwidth ▸ hexact) hwidth.symm
          have habove : n.atMost high = !high.less n :=
            Number.atMost_eq_not_less hexact (NumericBound.width_of_effective hhigh)
          simp [bind, pure, Except.bind, Except.pure, Except.map, hbelow, habove]

/-- A number is not below and above one bound, and if it is compared with it one way then also the
other way. -/
lemma holds_greaterThan_of_lessThan {below : Bool} (hexact : n.width ∈ Width.exact)
    (h : (lessThan a).holds owner n = .ok below) :
    ∃ above, (greaterThan a).holds owner n = .ok above ∧ (below && above) = false := by
  cases hbound : a.effective owner n.width with
  | error e =>
      rw [holds, hbound] at h
      cases h
  | ok bound =>
      have hwidth := NumericBound.width_of_effective hbound
      rw [holds, hbound] at h
      obtain rfl : n.less bound = below := Except.ok.inj h
      refine ⟨bound.less n, ?_, ?_⟩
      · rw [holds, hbound]
        rfl
      · exact Number.less_asymm hexact hwidth

/-! ### What is reported -/

variable {field : Field} {x : Instance} {m : Message}

/-- What a rule with this comparison reports on the first number that it sees. -/
def firstReport (c : Comparison) (field : Field) (x : Instance) (m : Message) :
    Except Error (Option Message) :=
  (Check.numeric (.fresh c)).validate field x m

/-- The first number is taken at its own width, so that all is up to the comparison. -/
lemma firstReport_eq (c : Comparison) (hn : field.get x.object = .number n) :
    c.firstReport field x m
      = (c.holds x.object n).map fun passed => if passed then none else some m := by
  simp [firstReport, Check.validate, NumericCheck.passes, NumericCheck.accept, NumericCheck.fresh,
    Value.number?, hn]

/-- **The three comparisons are consistent**: on a number of an exact width, a range from `a` to `b`
has the error that being below `a` has, or else the one that being above `b` has; without an error
it passes exactly if both of these fail. And if the one bound `a` has no error, then of being below
it, being above it and being in the range from it to itself exactly one passes; the other two
fail. -/
theorem comparisons_are_consistent (a b : NumericBound) (field : Field) (x : Instance)
    (m : Message) (hn : field.get x.object = .number n) (hexact : n.width ∈ Width.exact) :
    (∀ e, (lessThan a).firstReport field x m = .error e →
      (inRange a b).firstReport field x m = .error e) ∧
      (∀ r e, (lessThan a).firstReport field x m = .ok r →
        (greaterThan b).firstReport field x m = .error e →
          (inRange a b).firstReport field x m = .error e) ∧
      (∀ r s, (lessThan a).firstReport field x m = .ok r →
        (greaterThan b).firstReport field x m = .ok s →
          ∃ t, (inRange a b).firstReport field x m = .ok t ∧ (t = none ∨ t = some m) ∧
            (t = none ↔ r = some m ∧ s = some m)) ∧
      ((∀ e, (lessThan a).firstReport field x m ≠ .error e) →
        ((lessThan a).firstReport field x m = .ok none ∧
          (greaterThan a).firstReport field x m = .ok (some m) ∧
          (inRange a a).firstReport field x m = .ok (some m)) ∨
        ((lessThan a).firstReport field x m = .ok (some m) ∧
          (greaterThan a).firstReport field x m = .ok none ∧
          (inRange a a).firstReport field x m = .ok (some m)) ∨
        ((lessThan a).firstReport field x m = .ok (some m) ∧
          (greaterThan a).firstReport field x m = .ok (some m) ∧
          (inRange a a).firstReport field x m = .ok none)) := by
  simp only [firstReport_eq _ hn, holds_inRange _ _ _ hexact]
  cases hbelow : (lessThan a).holds x.object n with
  | error e =>
      refine ⟨?_, ?_, ?_, ?_⟩
      · intro e' h
        exact h
      · intro r e' h
        cases h
      · intro r s h
        cases h
      · intro h
        exact absurd rfl (h e)
  | ok below =>
      refine ⟨?_, ?_, ?_, ?_⟩
      · intro e h
        cases h
      · intro r e _ h
        cases habove : (greaterThan b).holds x.object n with
        | error e' =>
            rw [habove] at h
            exact h
        | ok above =>
            rw [habove] at h
            cases h
      · intro r s hr hs
        cases habove : (greaterThan b).holds x.object n with
        | error e' =>
            rw [habove] at hs
            cases hs
        | ok above =>
            rw [habove] at hs
            obtain rfl := Except.ok.inj hr
            obtain rfl := Except.ok.inj hs
            refine ⟨_, rfl, ?_⟩
            cases below <;> cases above <;> simp
      · intro _
        obtain ⟨above, habove, hnot⟩ := holds_greaterThan_of_lessThan hexact hbelow
        rw [habove]
        -- The number is below the bound, above it or at it.
        cases below with
        | true =>
            obtain rfl : above = false := by simpa using hnot
            exact .inl ⟨rfl, rfl, rfl⟩
        | false =>
            cases above with
            | true => exact .inr (.inl ⟨rfl, rfl, rfl⟩)
            | false => exact .inr (.inr ⟨rfl, rfl, rfl⟩)

/-- A price with two places behind the point. -/
def price : Number := .decimal ⟨false, 750, 2, by decide, by decide⟩

/-- An order whose price has two places behind the point. -/
def pricedOrder : Instance := (⟨"Order", [("Price", .number price)]⟩ : Entity)

/-- The price of `pricedOrder` with one place, as a bound. -/
def samePrice : NumericBound := ⟨"7.5", none⟩

/-- A price that is written with two places is neither below nor above the same one with one place:
it is in the range from the one to the other. -/
theorem price_is_consistent :
    (Field.ofKey "Price" "Price").get pricedOrder.object = .number price ∧
      price.width ∈ Width.exact ∧
      (lessThan samePrice).firstReport (.ofKey "Price" "Price") pricedOrder ⟨.error, "price"⟩
        = .ok (some ⟨.error, "price"⟩) ∧
      (greaterThan samePrice).firstReport (.ofKey "Price" "Price") pricedOrder ⟨.error, "price"⟩
        = .ok (some ⟨.error, "price"⟩) ∧
      (inRange samePrice samePrice).firstReport (.ofKey "Price" "Price") pricedOrder
        ⟨.error, "price"⟩ = .ok none := by
  have hexact : price.width ∈ Width.exact := by decide
  have hless : (lessThan samePrice).firstReport (.ofKey "Price" "Price") pricedOrder
      ⟨.error, "price"⟩ = .ok (some ⟨.error, "price"⟩) := by decide
  have hgreater : (greaterThan samePrice).firstReport (.ofKey "Price" "Price") pricedOrder
      ⟨.error, "price"⟩ = .ok (some ⟨.error, "price"⟩) := by decide
  obtain ⟨-, -, hrange, -⟩ := comparisons_are_consistent samePrice samePrice
    (.ofKey "Price" "Price") pricedOrder ⟨.error, "price"⟩ rfl hexact
  obtain ⟨t, ht, -, hpasses⟩ := hrange _ _ hless hgreater
  rw [hpasses.mpr ⟨rfl, rfl⟩] at ht
  exact ⟨rfl, hexact, hless, hgreater, ht⟩

end Comparison

end FieldRules
