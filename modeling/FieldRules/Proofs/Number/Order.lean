/-
The order of the numbers of an exact width.

* `Number.rank`: the place of a number in it;
* `compare?_eq`: two numbers of one exact width compare as their places do;
* `less_iff`, `atMost_eq_not_less`, `less_asymm`: so the order is total.
-/
import FieldRules.Proofs.Number.Integral

namespace FieldRules.Number

/-- The place of a number in the order of its width, which must be an exact one. -/
def rank : Number → Int
  | short n => n.val
  | int n => n.val
  | long n => n.val
  | decimal x => x.units
  | float _ => 0
  | double _ => 0

variable {a b : Number}

/-- Numbers of one exact width compare as their places do. -/
lemma compare?_eq (hexact : a.width ∈ Width.exact) (hwidth : b.width = a.width) :
    a.compare? b = some (compare a.rank b.rank) := by
  cases a <;> cases b
  case short.short | int.int | long.long | decimal.decimal => rfl
  case float.float | double.double => simp [Width.exact, width] at hexact
  all_goals cases hwidth

lemma less_iff (hexact : a.width ∈ Width.exact) (hwidth : b.width = a.width) :
    a.less b = true ↔ a.rank < b.rank := by
  simp [less, compare?_eq hexact hwidth, Int.compare_eq_lt]

/-- A number of an exact width is at most another one exactly if it is not the greater one. -/
lemma atMost_eq_not_less (hexact : a.width ∈ Width.exact) (hwidth : b.width = a.width) :
    a.atMost b = !b.less a := by
  have hless := less_iff hexact hwidth
  have hgreater := less_iff (hwidth ▸ hexact) hwidth.symm
  have hsame : a.same b = true ↔ a.rank = b.rank := by
    simp [same, compare?_eq hexact hwidth]
  rw [Bool.eq_iff_iff, atMost, Bool.or_eq_true, hless, hsame, Bool.not_eq_true', ← Bool.not_eq_true,
    hgreater]
  omega

/-- Of two numbers of an exact width one is not both the smaller and the greater one. -/
lemma less_asymm (hexact : a.width ∈ Width.exact) (hwidth : b.width = a.width) :
    (a.less b && b.less a) = false := by
  rw [← Bool.not_eq_true, Bool.and_eq_true, less_iff hexact hwidth,
    less_iff (hwidth ▸ hexact) hwidth.symm]
  omega

end FieldRules.Number
