/-
Rules that are applied a second time.

* `NumericCheck.accept_bind`: a width that a value has bound refuses nothing that
  the check took of the value before, and names no other width in an error;
* `Rule.run_run`: so a rule reports a second time what it reported the first
  time, and is bound no further;
* `Entry.evaluate_evaluate`, `RuleBook.evaluate_evaluate`: so do the rules of a
  field and those of a book, also if an error has kept some of them from being
  applied.
-/
import FieldRules.Proofs.Rule.FieldsOnly

namespace FieldRules

/-! ### One rule -/

namespace NumericCheck

/-- What a check takes of a value it takes of it again. -/
lemma accept_bind (c : NumericCheck) (field : String) (v : Value) :
    (c.bind v).accept field v = c.accept field v := by
  obtain ⟨comparison, width⟩ := c
  cases hn : v.number? with
  | none =>
      -- no number, no width
      have hbind : bind ⟨comparison, width⟩ v = ⟨comparison, width⟩ := by
        rw [bind, hn]
        exact congrArg _ (Option.or_none)
      rw [hbind]
  | some n =>
      cases width with
      | some w => rfl
      | none =>
          have hfree : accept ⟨comparison, none⟩ field v = .ok n := by
            rw [accept, hn]
            exact if_pos rfl
          have hbound : accept (bind ⟨comparison, none⟩ v) field v = .ok n := by
            rw [accept, bind, hn]
            exact if_pos rfl
          rw [hfree, hbound]

lemma passes_bind (c : NumericCheck) (field : String) (v : Value) (owner : Entity) :
    (c.bind v).passes field v owner = c.passes field v owner := by
  rw [passes, passes, accept_bind]
  rfl

/-- The first number binds. -/
lemma bind_bind (c : NumericCheck) (v : Value) : (c.bind v).bind v = c.bind v := by
  have hwidth : (c.width.or (v.number?.map Number.width)).or (v.number?.map Number.width)
      = c.width.or (v.number?.map Number.width) := by
    rw [Option.or_assoc, Option.or_self]
  rw [bind, bind, hwidth]

end NumericCheck

namespace Check

/-- A check that has seen the value of its field reports on it what it would have reported
before. -/
lemma validate_bind (c : Check) (field : Field) (x : Instance) (candidate : Message) :
    (c.bind (field.get x.object)).validate field x candidate = c.validate field x candidate := by
  cases c with
  | numeric n => rw [bind, validate, validate, n.passes_bind]
  | present => rfl
  | longer _ => rfl
  | shorter _ => rfl
  | custom _ => rfl

lemma bind_bind (c : Check) (v : Value) : (c.bind v).bind v = c.bind v := by
  cases c with
  | numeric n => exact congrArg numeric (n.bind_bind v)
  | present => rfl
  | longer _ => rfl
  | shorter _ => rfl
  | custom _ => rfl

end Check

namespace Rule

variable {r : Rule} {x y : Instance}

/-- A rule that was applied to an object reports on it what it would have reported before. -/
lemma validate_bind (r : Rule) (field : Field) (x : Instance) (l : Option Localizer) :
    (r.bind field x.object).validate field x l = r.validate field x l := by
  rw [bind]
  split
  · have hcheck := r.check.validate_bind field x (r.candidate l)
    rw [validate, validate, ← hcheck]
    rfl
  · rfl

lemma bind_bind (r : Rule) (field : Field) (owner : Entity) :
    (r.bind field owner).bind field owner = r.bind field owner := by
  cases happlies : r.applies owner with
  | error e =>
      have hsame : r.bind field owner = r := by rw [bind, happlies]
      rw [hsame, hsame]
  | ok applies =>
      cases applies with
      | false =>
          have hsame : r.bind field owner = r := by rw [bind, happlies]
          rw [hsame, hsame]
      | true =>
          have hbound : r.bind field owner
              = { r with check := r.check.bind (field.get owner) } := by
            rw [bind, happlies]
          have hagain : ({ r with check := r.check.bind (field.get owner) } : Rule).applies owner
              = .ok true := happlies
          rw [hbound, bind, hagain]
          simp only [Check.bind_bind]

/-- A rule that is applied again to the same object, whatever messages that has by now, reports what
it reported the first time, and is bound no further. -/
lemma run_run (hr : ∀ h ∈ r.handlers, h.FieldsOnly) (hxy : x.object = y.object) (field : Field)
    (l : Option Localizer) : (r.run field x l).2.run field y l = r.run field x l := by
  have hreport : (r.bind field x.object).validate field y l = r.validate field x l := by
    rw [hxy, validate_bind, validate_congr hr hxy]
  rw [run, run, hreport, ← hxy, bind_bind]

end Rule

/-! ### Fields and books -/

namespace RuleBook

variable {x y : Instance}

namespace Entry

/-- Rules that were applied up to the first error are applied again up to the same error. -/
lemma runRules_runRules {rules : List Rule} (hrules : ∀ r ∈ rules, ∀ h ∈ r.handlers, h.FieldsOnly)
    (hxy : x.object = y.object) (field : Field) (l : Option Localizer) (found : List Message) :
    runRules field y l (runRules field x l rules found).2 found
      = runRules field x l rules found := by
  induction rules generalizing found with
  | nil => rfl
  | cons r rest ih =>
      have hagain := Rule.run_run (hrules r List.mem_cons_self) hxy field l
      have hrest := ih fun s hs => hrules s (List.mem_cons_of_mem r hs)
      rw [runRules]
      cases hrun : r.run field x l with
      | mk verdict r' =>
          rw [hrun] at hagain
          cases verdict with
          | error e => simp only [runRules, hagain]
          | ok m => simp only [runRules, hagain, hrest]

/-- The rules of a field report a second time what they reported the first time. -/
lemma evaluate_evaluate {e : Entry} (he : ∀ r ∈ e.rules, ∀ h ∈ r.handlers, h.FieldsOnly)
    (hxy : x.object = y.object) (l : Option Localizer) :
    (e.evaluate x l).2.evaluate y l = e.evaluate x l := by
  have hagain := runRules_runRules he hxy e.field l []
  rw [evaluate, evaluate]
  simp only [hagain]

end Entry

lemma evaluateEntries_evaluateEntries {entries : List Entry}
    (hentries : ∀ e ∈ entries, ∀ r ∈ e.rules, ∀ h ∈ r.handlers, h.FieldsOnly)
    (hxy : x.object = y.object) (l : Option Localizer) :
    evaluateEntries y l (evaluateEntries x l entries).2 = evaluateEntries x l entries := by
  induction entries with
  | nil => rfl
  | cons e rest ih =>
      have hagain := Entry.evaluate_evaluate (hentries e List.mem_cons_self) hxy l
      have hrest := ih fun f hf => hentries f (List.mem_cons_of_mem e hf)
      rw [evaluateEntries]
      cases heval : e.evaluate x l with
      | mk result e' =>
          rw [heval] at hagain
          cases result with
          | error err => simp only [evaluateEntries, hagain]
          | ok ms => simp only [evaluateEntries, hagain, hrest]

/-- The rules of a book report a second time what they reported the first time, and they are bound
no further. -/
lemma evaluate_evaluate {b : RuleBook} (hb : b.FieldsOnly) (hxy : x.object = y.object)
    (l : Option Localizer) : (b.evaluate x l).2.evaluate y l = b.evaluate x l := by
  have hagain := evaluateEntries_evaluateEntries hb hxy l
  rw [evaluate, evaluate]
  simp only [hagain]

end RuleBook

end FieldRules
