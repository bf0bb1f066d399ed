/-
Rules whose handlers look at the object alone.

* `Handler.FieldsOnly`: what the handler reports depends on the object, not on
  the messages that it has or on its localizer;
* `RuleBook.FieldsOnly`: so it is for every handler that a rule of the book
  calls;
* `Rule.validate_congr`: such a rule reports the same whatever messages there
  are.
-/
import FieldRules.RuleBook
import Mathlib.Tactic.Lemma

namespace FieldRules

/-- What the handler reports depends on the object alone, not on its messages or its localizer. -/
def Handler.FieldsOnly (h : Handler) : Prop :=
  ∀ (x y : Instance) (candidate : Option Message) (field : Field),
    x.object = y.object → h x candidate field = h y candidate field

/-- The handler that a custom check leaves the verdict to. -/
def Check.delegate? : Check → Option NamedHandler
  | .custom delegate => delegate
  | _ => none

/-- The handlers that the rule calls. -/
def Rule.handlers (r : Rule) : List Handler :=
  (r.check.delegate?.toList ++ r.interceptor.toList).map NamedHandler.run

/-- Every handler that a rule of the book calls looks at the object alone. -/
def RuleBook.FieldsOnly (b : RuleBook) : Prop :=
  ∀ e ∈ b.entries, ∀ r ∈ e.rules, ∀ h ∈ r.handlers, h.FieldsOnly

/-- A check reports the same on two instances with one object, if its handler looks at the object
alone. -/
lemma Check.validate_congr {c : Check} (hc : ∀ h ∈ c.delegate?, h.run.FieldsOnly)
    {x y : Instance} (hxy : x.object = y.object) (field : Field) (candidate : Message) :
    c.validate field x candidate = c.validate field y candidate := by
  cases c with
  | present => rw [validate, validate, hxy]
  | numeric c => rw [validate, validate, hxy]
  | longer bound => rw [validate, validate, hxy]
  | shorter bound => rw [validate, validate, hxy]
  | custom delegate =>
      cases delegate with
      | none => rfl
      | some h => rw [validate, validate, hc h rfl x y _ _ hxy]

/-- A rule reports the same on two instances with one object, if its handlers look at the object
alone. -/
lemma Rule.validate_congr {r : Rule} (hr : ∀ h ∈ r.handlers, h.FieldsOnly) {x y : Instance}
    (hxy : x.object = y.object) (field : Field) (localizer : Option Localizer) :
    r.validate field x localizer = r.validate field y localizer := by
  have hcheck : ∀ h ∈ r.check.delegate?, h.run.FieldsOnly := by
    intro h hh
    refine hr h.run (List.mem_map_of_mem (List.mem_append_left _ ?_))
    rw [Option.mem_toList]
    exact hh
  have hintercept : r.intercept field x = r.intercept field y := by
    funext raw
    rw [intercept, intercept]
    cases hi : r.interceptor with
    | none => rfl
    | some h =>
        refine hr h.run (List.mem_map_of_mem (List.mem_append_right _ ?_)) x y raw field hxy
        rw [hi, Option.mem_toList]
  rw [validate, validate, hxy, Check.validate_congr hcheck hxy, hintercept]

end FieldRules
