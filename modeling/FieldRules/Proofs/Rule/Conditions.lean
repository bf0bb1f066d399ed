/-
Conditions on other fields.

* `Number.isPositive`, `Value.isValid`: the numbers above zero, and the values that
  count as valid;
* `Number.less_of_isZero`: a number is positive if any zero of its width is less;
* `Guard.holdsFor_eq`: whether the value in a slot counts as valid is up to the value
  alone, since zero reads at every width;
* `Guard.allows_eq_error_iff`, `Guard.allows_opposite`: so a condition fails with its
  path alone, and with the opposite sign it has the opposite answer;
* `Rule.Application`, `Rule.after`: a rule after it was applied to one object after
  the other; `applies_after`: its condition is the one that it began with;
* `Guard.conditions_are_up_to_values`: all of this together.
-/
import FieldRules.Proofs.Outcomes
import FieldRules.Proofs.Path
import FieldRules.Proofs.Rule.Binding

namespace FieldRules

/-! ### Positive numbers -/

/-- Whether the number is greater than zero. What is not a number is not. -/
def Binary.isPositive {f : Format} : Binary f → Bool
  | nan => false
  | infinite negative => !negative
  | finite negative m _ _ => !negative && m != 0

/-- Whether the number is greater than zero. -/
def Decimal.isPositive (x : Decimal) : Bool :=
  !x.negative && x.mantissa != 0

/-- Whether the number is greater than zero. -/
def Number.isPositive : Number → Bool
  | short n => 0 < n.val
  | int n => 0 < n.val
  | long n => 0 < n.val
  | float x => x.isPositive
  | double x => x.isPositive
  | decimal x => x.isPositive

/-- A multiple of a power is positive if it is not negative and not zero. -/
lemma signed_pos_iff (negative : Bool) {m p : Nat} (hp : 0 < p) :
    (0 : Int) < (if negative then -((m * p : Nat) : Int) else ((m * p : Nat) : Int)) ↔
      (!negative && m != 0) = true := by
  have hpos : 0 < m * p ↔ m ≠ 0 := by
    rw [Nat.mul_pos_iff_of_pos_right hp, Nat.pos_iff_ne_zero]
  cases negative <;> simp <;> omega

/-- The order of the numbers tells which are above a zero. -/
lemma Binary.compare?_of_isZero {f : Format} {zero x : Binary f} (hzero : zero.isZero = true) :
    zero.compare? x = some .lt ↔ x.isPositive = true := by
  cases zero with
  | nan => cases hzero
  | infinite _ => cases hzero
  | finite a m q _ =>
      obtain rfl : m = 0 := by simpa [isZero] using hzero
      have hunits : units a 0 q f.minExp = 0 := by simp [units]
      cases x with
      | nan => simp [compare?, isPositive]
      | infinite b => cases b <;> simp [compare?, isPositive]
      | finite b n r _ =>
          rw [compare?, hunits, Option.some_inj, Int.compare_eq_lt, isPositive, units]
          exact signed_pos_iff b (Nat.pow_pos (by decide))

lemma Decimal.compare_of_isZero {zero x : Decimal} (hzero : zero.isZero = true) :
    zero.compare x = .lt ↔ x.isPositive = true := by
  have hmantissa : zero.mantissa = 0 := by simpa [isZero] using hzero
  have hunits : zero.units = 0 := by simp [units, hmantissa]
  rw [compare, hunits, Int.compare_eq_lt, isPositive, units]
  exact signed_pos_iff x.negative (Nat.pow_pos (by decide))

/-- A number is positive if and only if a zero of its width, whichever sign or places that has, is
less. -/
lemma Number.less_of_isZero {zero n : Number} (hzero : zero.isZero = true)
    (hwidth : zero.width = n.width) : zero.less n = n.isPositive := by
  rw [Bool.eq_iff_iff, less, beq_iff_eq]
  cases zero <;> cases n
  case short.short | int.int | long.long =>
    simp only [isZero, beq_iff_eq] at hzero
    simp [compare?, isPositive, hzero, Int.compare_eq_lt]
  case float.float | double.double => exact Binary.compare?_of_isZero hzero
  case decimal.decimal =>
    rw [compare?, Option.some_inj]
    exact Decimal.compare_of_isZero hzero
  all_goals cases hwidth

/-- Zero reads at every width. -/
lemma Width.parse?_zero (w : Width) : ∃ zero, w.parse? "0" = some zero ∧ zero.isZero = true := by
  cases w <;> exact ⟨_, rfl, rfl⟩

/-! ### Valid values -/

/-- Whether the value counts as valid: true, a text that is not blank, a number above zero, a
collection or an object. -/
def Value.isValid : Value → Bool
  | bool flag => flag
  | text s => !Text.isBlank s
  | number n => n.isPositive
  | null => false
  | list _ | object _ => true

/-- The path leads nowhere from the object, and that is the error. -/
def Path.Strays (p : Path) (owner : Entity) (e : Error) : Prop :=
  ∃ cause, owner.locate p = .error cause ∧ e = .path cause

namespace Guard

variable {g : Guard} {owner : Entity} {e : Error}

/-- Every number compares with zero. -/
lemma passes_aboveZero (n : Number) (field : String) (owner : Entity) :
    aboveZero.passes field (.number n) owner = .ok n.isPositive := by
  obtain ⟨zero, hparse, hzero⟩ := n.width.parse?_zero
  rw [← Number.less_of_isZero hzero (Number.width_of_readChars? hparse)]
  simp [aboveZero, NumericCheck.passes, NumericCheck.accept, NumericCheck.fresh, Value.number?,
    Comparison.holds, NumericBound.effective, NumericBound.configured, hparse, bind, Except.bind,
    pure, Except.pure]

/-- Whether the value in a slot counts as valid is up to the value alone. -/
lemma holdsFor_eq (s : Slot) (v : Value) : holdsFor s v = .ok v.isValid := by
  cases v with
  | number n => exact passes_aboveZero n s.name s.owner
  | bool _ | text _ | null | list _ | object _ => rfl

/-- The condition is told by the value at the end of its path. -/
lemma allows_eq (g : Guard) (owner : Entity) :
    g.allows owner
      = orPathError ((owner.resolve g.path).map fun v => v.isValid != g.path.negated) := by
  rw [allows, Entity.resolve]
  cases owner.locate g.path with
  | error cause => rfl
  | ok s =>
      simp only [holdsFor_eq]
      rfl

/-- A condition has no answer only if its path leads nowhere. -/
lemma strays_of_allows (h : g.allows owner = .error e) : g.path.Strays owner e := by
  rw [allows] at h
  split at h
  · rename_i cause hlocate
    cases h
    exact ⟨cause, hlocate, rfl⟩
  · rw [holdsFor_eq] at h
    cases h

/-- A condition has no answer if and only if its path leads nowhere. -/
lemma allows_eq_error_iff : g.allows owner = .error e ↔ g.path.Strays owner e := by
  refine ⟨strays_of_allows, ?_⟩
  rintro ⟨cause, hlocate, rfl⟩
  rw [allows, hlocate]

/-- The condition with the opposite sign. -/
def opposite (g : Guard) : Guard :=
  ⟨{ g.path with negated := !g.path.negated }⟩

/-- A path leads to the same value with either sign, so that the answers are opposite. -/
lemma allows_opposite (g : Guard) (owner : Entity) :
    g.opposite.allows owner = (g.allows owner).map not := by
  have hresolve : owner.resolve g.opposite.path = owner.resolve g.path := rfl
  rw [allows_eq, allows_eq, hresolve]
  cases owner.resolve g.path with
  | error cause => rfl
  | ok v =>
      have hanswer : (v.isValid != !g.path.negated) = !(v.isValid != g.path.negated) := by
        cases v.isValid <;> cases g.path.negated <;> rfl
      exact congrArg Except.ok hanswer

end Guard

/-! ### Conditions of rules -/

namespace Rule

/-- What a rule is applied to. -/
structure Application where
  /-- The field. -/
  field : Field
  /-- The object that has the field. -/
  owner : Instance
  /-- The localizer of the texts. -/
  localizer : Option Localizer

/-- What the rule reports, and the rule afterwards. -/
def runOn (r : Rule) (a : Application) : Except Error (Option Message) × Rule :=
  r.run a.field a.owner a.localizer

/-- The rule after it was applied to one object after the other. -/
def after (r : Rule) (as : List Application) : Rule :=
  as.foldl (fun r a => (r.runOn a).2) r

lemma after_cons (r : Rule) (a : Application) (as : List Application) :
    r.after (a :: as) = (r.bind a.field a.owner.object).after as := rfl

/-- A rule that was applied to objects keeps all that stands around its check. -/
lemma after_eq (r : Rule) (as : List Application) :
    r.after as = { r with check := (r.after as).check } := by
  induction as generalizing r with
  | nil => rfl
  | cons a as ih =>
      have hbind : r.bind a.field a.owner.object
          = { r with check := (r.bind a.field a.owner.object).check } := (r.binds_bind _ _).rest
      rw [after_cons, ih, hbind]

/-- A rule that was applied to objects has the condition that it began with. -/
lemma applies_after (r : Rule) (as : List Application) (owner : Entity) :
    (r.after as).applies owner = r.applies owner := by
  rw [after_eq]
  rfl

end Rule

/-- **Conditions are up to values**: a condition has an error if and only if its path leads nowhere,
and this is the error. Otherwise its answer is whether the value at the end of the path counts as
valid, or the opposite if the path is negated; so the condition with the opposite sign has the
opposite answer, or the same error. A number counts as valid if and only if it is greater than a
zero of its own width, and nothing does not. To whatever objects a rule was applied before, its
condition has the answer that it would have had at the beginning. -/
theorem Guard.conditions_are_up_to_values (g : Guard) :
    (∀ owner e, g.allows owner = .error e ↔ g.path.Strays owner e) ∧
      (∀ owner v, owner.resolve g.path = .ok v →
        g.allows owner = .ok (v.isValid != g.path.negated)) ∧
      (∀ owner, g.opposite.allows owner = (g.allows owner).map not) ∧
      (∀ n : Number, (Value.number n).isValid = true ↔
        ∃ zero : Number, zero.width = n.width ∧ zero.isZero = true ∧ zero.less n = true) ∧
      Value.null.isValid = false ∧
      ∀ r : Rule, r.guard = some g → ∀ (before : List Rule.Application) (owner : Entity),
        (r.after before).applies owner = g.allows owner := by
  refine ⟨fun owner e => allows_eq_error_iff, ?_, g.allows_opposite, fun n => ⟨?_, ?_⟩, rfl, ?_⟩
  · intro owner v hv
    rw [allows_eq, hv]
    rfl
  · intro hvalid
    obtain ⟨zero, hparse, hzero⟩ := n.width.parse?_zero
    have hwidth : zero.width = n.width := Number.width_of_readChars? hparse
    exact ⟨zero, hwidth, hzero, (Number.less_of_isZero hzero hwidth).trans hvalid⟩
  · rintro ⟨zero, hwidth, hzero, hless⟩
    exact (Number.less_of_isZero hzero hwidth).symm.trans hless
  · intro r hr before owner
    rw [Rule.applies_after, Rule.applies, hr]

/-! ### Parcels with weights -/

/-- Whether a parcel has a weight. -/
def isWeighed : Guard := ⟨⟨["Weight"], false⟩⟩

/-- A parcel that has a weight must have a name. -/
def namedIfWeighed : Rule := ⟨.present, .error, "no name", none, some isWeighed, none⟩

/-- The name of a parcel with this weight. -/
def weighed (weight : Value) : Rule.Application :=
  ⟨.ofKey "Name" "Name", (⟨"Parcel", [("Weight", weight)]⟩ : Entity), none⟩

/-- One, as a short integer. -/
def shortOne : Value := .number (.short ⟨1, by decide, by decide⟩)

/-- A tenth, as a decimal number. -/
def tenth : Value := .number (.decimal ⟨false, 1, 1, by decide, by decide⟩)

/-- After a parcel with a short weight and one whose weight is not a number, a decimal weight counts
all the same, and a parcel without a weight is an error of the path. -/
theorem weight_of_any_width_counts :
    namedIfWeighed.guard = some isWeighed ∧
      (weighed tenth).owner.object.resolve isWeighed.path = .ok tenth ∧
      (namedIfWeighed.after [weighed shortOne, weighed (.number (.double .nan))]).applies
        (weighed tenth).owner.object = .ok true ∧
      isWeighed.opposite.allows (weighed tenth).owner.object = .ok false ∧
      isWeighed.allows ⟨"Parcel", []⟩
        = .error (.path (.missingSegment "Weight" "Weight" "Parcel")) := by
  obtain ⟨herror, hanswer, hopposite, -, -, hafter⟩ := isWeighed.conditions_are_up_to_values
  have htenth : isWeighed.allows (weighed tenth).owner.object = .ok true := hanswer _ tenth rfl
  refine ⟨rfl, rfl, ?_, ?_, ?_⟩
  · rw [hafter namedIfWeighed rfl, htenth]
  · rw [hopposite, htenth]
    rfl
  · exact (herror _ _).mpr ⟨_, rfl, rfl⟩

end FieldRules
