/-
Numeric checks over whole histories.

* `Check.Question`, `Check.after`: what a check is asked about, and the check after
  it was asked one question after the other;
* `after_numeric`, `checkAfter_eq`: a numeric check that has no width gets that of the first number
  it is asked about, whatever the answer is, and one that has a width keeps it;
* `fst_ask_of_width`, `fst_ask_of_other_width`, `ask_of_no_number`: a number of the
  width is compared as if it were the first one, and all other values are refused
  before any bound is looked for;
* `first_number_binds`: all of this together.
-/
import FieldRules.Proofs.Rule.Comparison
import FieldRules.Proofs.RuleBook.Widths

namespace FieldRules

namespace Check

/-- What a check is asked about, with the message to report if it fails. -/
structure Question where
  /-- The field. -/
  field : Field
  /-- The object that has the field. -/
  owner : Instance
  /-- The message. -/
  candidate : Message

/-- The value of the field. -/
def Question.value (q : Question) : Value :=
  q.field.get q.owner.object

/-- The width of the value, if it is a number. -/
def Question.width? (q : Question) : Option Width :=
  q.value.number?.map Number.width

/-- What a check reports on a question, and the check afterwards. -/
def ask (c : Check) (q : Question) : Except Error (Option Message) × Check :=
  c.run q.field q.owner q.candidate

/-- The check after questions, one after the other. -/
def after (c : Check) (qs : List Question) : Check :=
  qs.foldl (fun c q => (c.ask q).2) c

end Check

/-- The check with this comparison after all the questions that it was asked. -/
def Comparison.checkAfter (c : Comparison) (qs : List Check.Question) : Check :=
  (Check.numeric (.fresh c)).after qs

namespace Check

variable {comparison : Comparison} {w : Width} {q : Question} {n : Number}

/-- After any questions a numeric check has the width that it had, or else that of the first number
among the values. -/
lemma after_numeric (comparison : Comparison) (w : Option Width) (qs : List Question) :
    (numeric ⟨comparison, w⟩).after qs
      = numeric ⟨comparison, w.or (qs.findSome? Question.width?)⟩ := by
  induction qs generalizing w with
  | nil => rw [List.findSome?_nil, Option.or_none, after, List.foldl_nil]
  | cons q rest ih =>
      have hstep : (numeric ⟨comparison, w⟩).after (q :: rest)
          = (numeric ⟨comparison, w.or q.width?⟩).after rest := rfl
      rw [hstep, ih, findSome?_cons_eq_or, Option.or_assoc]

lemma checkAfter_eq (comparison : Comparison) (qs : List Question) :
    comparison.checkAfter qs = numeric ⟨comparison, qs.findSome? Question.width?⟩ :=
  after_numeric comparison none qs

/-- A check that has seen numbers of one width alone compares the next one of this width as if it
were the first. -/
lemma fst_ask_of_width {width : Option Width} (hn : q.value = .number n)
    (hwidth : ∀ w, width = some w → w = n.width) :
    ((numeric ⟨comparison, width⟩).ask q).1
      = comparison.firstReport q.field q.owner q.candidate := by
  have hnumber : (q.field.get q.owner.object).number? = some n := by
    rw [← Question.value, hn]
    rfl
  cases width with
  | none => rfl
  | some w =>
      obtain rfl := hwidth w rfl
      rw [ask, run, validate, NumericCheck.passes_bound hnumber]
      rfl

/-- A number of another width is refused, whatever the object has at the paths of bounds. -/
lemma fst_ask_of_other_width (hn : q.value = .number n) (hwidth : w ≠ n.width) :
    ((numeric ⟨comparison, some w⟩).ask q).1
      = .error (.typeMismatch q.field.name w.name n.width.name) := by
  have hvalue : q.field.get q.owner.object = .number n := hn
  simp [ask, run, validate, NumericCheck.passes, NumericCheck.accept, NumericCheck.expected, hvalue,
    Value.number?, Value.kindName, hwidth, Except.map]

/-- What is no number is refused, and leaves the check as it is. -/
lemma ask_of_no_number {c : NumericCheck} (hn : q.value.number? = none) :
    (numeric c).ask q
      = (.error (.typeMismatch q.field.name c.expected q.value.kindName), numeric c) := by
  have hnumber : (q.field.get q.owner.object).number? = none := hn
  have hbind : c.bind (q.field.get q.owner.object) = c := by
    rw [NumericCheck.bind, hnumber, Option.map_none, Option.or_none]
  rw [ask, run, bind, hbind, validate, NumericCheck.passes, NumericCheck.accept, hnumber]
  rfl

/-- Where all numbers have one width, the first one has it. -/
lemma findSome?_width_of_forall {qs : List Question} {width : Width}
    (h : ∀ q ∈ qs, ∀ m, q.value = .number m → m.width = width) :
    ∀ w, qs.findSome? Question.width? = some w → w = width := by
  intro w hw
  obtain ⟨q, hq, hwidth⟩ := List.exists_of_findSome?_eq_some hw
  obtain ⟨m, hm, rfl⟩ := Option.map_eq_some_iff.mp hwidth
  refine h q hq m ?_
  cases hv : q.value with
  | number k =>
      rw [hv] at hm
      rw [Option.some.inj hm]
  | null | bool _ | text _ | list _ | object _ =>
      rw [hv] at hm
      cases hm

/-- **The first number binds**: after any questions a numeric check is bound to the width of the
first number among the values, whatever it reported on it, be it an error, and to none if there was
no number; a width that it has it keeps. If no number before had another width, the next one is
compared as if it were the first. A number of another width than the one that the check is bound to
is refused with both widths, wherever the paths of bounds lead. What is no number is refused with
the width, or as no number if there is none, and leaves the check as it is. -/
theorem first_number_binds (comparison : Comparison) (qs : List Question) :
    (comparison.checkAfter qs).width? = qs.findSome? Question.width? ∧
      (∀ w, (comparison.checkAfter qs).width? = some w →
        ∀ more, (comparison.checkAfter (qs ++ more)).width? = some w) ∧
      ∀ q : Question,
        (∀ n, q.value = .number n →
          (∀ p ∈ qs, ∀ m, p.value = .number m → m.width = n.width) →
            ((comparison.checkAfter qs).ask q).1
              = comparison.firstReport q.field q.owner q.candidate) ∧
        (∀ n w, q.value = .number n → (comparison.checkAfter qs).width? = some w →
          (w = n.width →
            ((comparison.checkAfter qs).ask q).1
              = comparison.firstReport q.field q.owner q.candidate) ∧
          (w ≠ n.width →
            ((comparison.checkAfter qs).ask q).1
              = .error (.typeMismatch q.field.name w.name n.width.name))) ∧
        (q.value.number? = none →
          (comparison.checkAfter qs).ask q
            = (.error (.typeMismatch q.field.name
                (((comparison.checkAfter qs).width?.map Width.name).getD "number")
                q.value.kindName),
              comparison.checkAfter qs)) := by
  have hwidth : ∀ qs, (comparison.checkAfter qs).width? = qs.findSome? Question.width? := by
    intro qs
    rw [checkAfter_eq]
    rfl
  refine ⟨hwidth qs, ?_, fun q => ⟨?_, ?_, ?_⟩⟩
  · intro w hw more
    rw [hwidth] at hw ⊢
    rw [List.findSome?_append, hw, Option.some_or]
  · intro n hn hwidths
    rw [checkAfter_eq]
    exact fst_ask_of_width hn (findSome?_width_of_forall hwidths)
  · intro n w hn hw
    rw [hwidth] at hw
    rw [checkAfter_eq, hw]
    refine ⟨?_, fst_ask_of_other_width hn⟩
    rintro rfl
    exact fst_ask_of_width hn fun w h => (Option.some.inj h).symm
  · intro hn
    rw [checkAfter_eq]
    exact ask_of_no_number hn

/-! ### An order without a limit -/

/-- A count must be below the limit of its order. -/
def belowLimit : Comparison := .lessThan ⟨"10", some ⟨["Limit"], false⟩⟩

/-- The question about the count of an order that has no limit. -/
def countOf (v : Value) : Question :=
  ⟨.ofKey "Count" "Count", (⟨"Order", [("Count", v)]⟩ : Entity), ⟨.error, "too many"⟩⟩

/-- Six, as a short integer. -/
def shortSix : Number := .short ⟨6, by decide, by decide⟩

/-- Six, as an integer. -/
def intSix : Number := .int ⟨6, by decide, by decide⟩

/-- A first count that is a number has no answer, as there is no limit. It binds all the same: a
short one is refused from then on, and the missing limit is not told of any more. -/
theorem first_count_binds :
    [countOf .null, countOf (.number intSix)].findSome? Question.width? = some .int ∧
      belowLimit.firstReport (countOf (.number intSix)).field (countOf (.number intSix)).owner
          (countOf (.number intSix)).candidate
        = .error (.path (.missingSegment "Limit" "Limit" "Order")) ∧
      (belowLimit.checkAfter [countOf .null, countOf (.number intSix)]).width? = some .int ∧
      Width.int ≠ shortSix.width ∧
      ((belowLimit.checkAfter [countOf .null, countOf (.number intSix)]).ask
          (countOf (.number shortSix))).1
        = .error (.typeMismatch "Count" "int" "short") := by
  obtain ⟨hbound, -, hnext⟩ :=
    first_number_binds belowLimit [countOf .null, countOf (.number intSix)]
  have hint : (belowLimit.checkAfter [countOf .null, countOf (.number intSix)]).width?
      = some .int := hbound.trans rfl
  have hne : Width.int ≠ shortSix.width := by decide
  obtain ⟨-, hnumber, -⟩ := hnext (countOf (.number shortSix))
  exact ⟨rfl, rfl, hint, hne, (hnumber shortSix .int rfl hint).2 hne⟩

end Check

end FieldRules
