/-
Rules without what stands around their checks.

* `RuleDecl.bare`, `Rule.bare`: a rule without its condition and its interceptor;
  `Clause.isPlain`, `bare_declare`: a declaration without the clauses about them;
* `RuleDecl.compile_bare`: what is compiled without them is the rule without them;
* `RuleDecl.handler_of_compile`, `compile_of_isCustom`: which handler has the last
  word, and that no handler has it where a handler decides anyway;
* `Rule.runOn_of_error`, `runOn_of_denied`, `fst_runOn_of_allowed`: what a rule
  reports, by the answer of its condition;
* `Rule.bare_after`: the rule and its bare form are bound alike, if the bare one is
  applied where the condition lets the rule be applied;
* `conditions_gate_and_interceptors_filter`: all of this together.
-/
import FieldRules.Proofs.Rule.Compilation
import FieldRules.Proofs.Site.Reachable

namespace FieldRules

/-! ### Declarations -/

/-- Whether the clause is about the rule itself, and neither about its condition nor about who has
the last word. -/
def Clause.isPlain : Clause → Bool
  | validateIf _ | interceptWith _ => false
  | _ => true

/-- The rule without what stands around its check. -/
def Rule.bare (r : Rule) : Rule :=
  { r with guard := none, interceptor := none }

namespace RuleDecl

/-- The declaration without a condition and without an interceptor. -/
def bare (d : RuleDecl) : RuleDecl :=
  { d with guard := none, interceptor := none }

/-- A clause about the rule itself does the same to the bare declaration, and any other clause does
nothing to it. -/
lemma bare_add (d : RuleDecl) (c : Clause) :
    (d.add c).bare = if c.isPlain then d.bare.add c else d.bare := by
  obtain ⟨kind, messageKind, text, key, guard, interceptor, misapplied⟩ := d
  cases c with
  | comparedTo path => cases kind <;> rfl
  | minComparedTo path => cases kind <;> rfl
  | maxComparedTo path => cases kind <;> rfl
  | error _ | warning _ | messageKind _ | failureMessage _ | localized _ | validateIf _
  | interceptWith _ => rfl

lemma bare_foldl_add (d : RuleDecl) (clauses : List Clause) :
    (clauses.foldl add d).bare = (clauses.filter Clause.isPlain).foldl add d.bare := by
  induction clauses generalizing d with
  | nil => rfl
  | cons c rest ih =>
      rw [List.foldl_cons, ih, bare_add, List.filter_cons]
      cases c.isPlain <;> rfl

variable {typeName field name : String} {hs : Handlers} {d : RuleDecl} {r : Rule}

/-- Without what stands around it the declaration compiles to the bare rule. -/
lemma compile_bare (h : d.compile typeName field hs = .ok r) :
    d.bare.compile typeName field hs = .ok r.bare := by
  obtain ⟨hkind, -, -, hcheck⟩ := compile_eq_ok h
  have hbarekind : d.bare.checkedKind typeName field = .ok r.kind := hkind
  have hbarecheck : compileCheck typeName hs d.bare.kind = .ok r.check := hcheck
  rw [compile] at h
  obtain ⟨kind, -, h⟩ := bind_eq_ok_iff.mp h
  obtain ⟨guard, -, h⟩ := bind_eq_ok_iff.mp h
  obtain ⟨interceptor, -, h⟩ := bind_eq_ok_iff.mp h
  obtain ⟨check, -, h⟩ := bind_eq_ok_iff.mp h
  cases h
  rw [compile, hbarekind, hbarecheck]
  rfl

/-- The handler that has the last word is the one that the type has under its name. -/
lemma handler_of_compile (h : d.compile typeName field hs = .ok r) {i : NamedHandler}
    (hi : r.interceptor = some i) : hs.find? i.name = some i.run := by
  obtain ⟨-, -, hinterceptor, -⟩ := compile_eq_ok h
  rw [hi, compileInterceptor] at hinterceptor
  split at hinterceptor
  · cases hinterceptor
  · split at hinterceptor
    · cases hinterceptor
    · obtain ⟨found, hfound, hsome⟩ := map_eq_ok_iff.mp hinterceptor
      obtain rfl := Option.some.inj hsome
      rw [handler] at hfound
      split at hfound <;> cases hfound
      assumption

/-- A rule that is left to a handler takes no other. -/
lemma compileInterceptor_of_isCustom (hcustom : d.kind.isCustom = true) :
    d.compileInterceptor typeName hs = .ok none := by
  rw [compileInterceptor, hcustom]
  cases given d.interceptor <;> rfl

/-- A rule that is left to a handler compiles to the same whether another handler is given or not,
and under whichever name. -/
lemma compile_of_isCustom (hcustom : d.kind.isCustom = true) (interceptor : Option String) :
    { d with interceptor := interceptor }.compile typeName field hs
      = d.compile typeName field hs := by
  have hother : { d with interceptor := interceptor }.compileInterceptor typeName hs = .ok none :=
    compileInterceptor_of_isCustom hcustom
  rw [compile, compile, hother, compileInterceptor_of_isCustom hcustom]
  rfl

end RuleDecl

/-- A declaration without the clauses about what stands around the check is the bare one. -/
lemma RuleStart.bare_declare (s : RuleStart) (clauses : List Clause) :
    (s.declare clauses).bare = s.declare (clauses.filter Clause.isPlain) :=
  RuleDecl.bare_foldl_add (.ofKind s.kind) clauses

lemma RuleStart.isCustom_declare (s : RuleStart) (clauses : List Clause) :
    (s.declare clauses).kind.isCustom = s.kind.isCustom := by
  rw [declare_eq, isCustom_kindAfter]

/-! ### Rules -/

namespace Rule

variable {r : Rule} {a : Application} {g : Guard}

/-- Whether the condition of the rule lets it be applied. -/
def admits (r : Rule) (a : Application) : Bool :=
  (r.applies a.owner.object).toOption == some true

lemma admits_of_applies {b : Bool} (h : r.applies a.owner.object = .ok b) : r.admits a = b := by
  rw [admits, h]
  cases b <;> rfl

/-- Without an answer of its condition the rule has none, and stays as it is. -/
lemma runOn_of_error {e : Error} (h : r.applies a.owner.object = .error e) :
    r.runOn a = (.error e, r) := by
  rw [runOn, run, validate, bind, h]

/-- A rule that is not let be applied reports nothing, and stays as it is. -/
lemma runOn_of_denied (h : r.applies a.owner.object = .ok false) : r.runOn a = (.ok none, r) := by
  rw [runOn, run, validate, bind, h]

/-- A rule that is let be applied reports what its interceptor makes of what the bare rule
reports. -/
lemma fst_runOn_of_allowed (h : r.applies a.owner.object = .ok true) :
    (r.runOn a).1 = (r.bare.runOn a).1.map (r.intercept a.field a.owner) := by
  have hbare : (r.bare.runOn a).1
      = r.check.validate a.field a.owner (r.candidate a.localizer) := by
    have hrun : (r.bare.runOn a).1
        = (r.check.validate a.field a.owner (r.candidate a.localizer)).map fun raw => raw := rfl
    rw [hrun]
    cases r.check.validate a.field a.owner (r.candidate a.localizer) <;> rfl
  rw [hbare, runOn, run, validate, h]

/-- A rule that is let be applied is bound as it is without what stands around it; any other is not
bound. -/
lemma bare_snd_runOn (r : Rule) (a : Application) :
    (r.runOn a).2.bare = if r.admits a then (r.bare.runOn a).2 else r.bare := by
  cases h : r.applies a.owner.object with
  | error e =>
      rw [runOn_of_error h, admits, h]
      rfl
  | ok b =>
      rw [admits_of_applies h]
      cases b with
      | false =>
          rw [runOn_of_denied h]
          rfl
      | true =>
          rw [runOn, run, bind, h]
          rfl

lemma admits_after (r : Rule) (before : List Application) : (r.after before).admits = r.admits := by
  funext a
  rw [admits, applies_after, admits]

/-- A rule that was applied to objects is, but for what stands around it, the bare rule that was
applied to those of them where the rule was let be applied. -/
lemma bare_after (r : Rule) (as : List Application) :
    (r.after as).bare = r.bare.after (as.filter r.admits) := by
  induction as generalizing r with
  | nil => rfl
  | cons a as ih =>
      have hstep : ∀ s : Rule, s.after (a :: as) = (s.runOn a).2.after as := fun _ => rfl
      have hadmits : (r.runOn a).2.admits = r.admits := r.admits_after [a]
      rw [hstep, ih, hadmits, bare_snd_runOn, List.filter_cons]
      cases r.admits a <;> rfl

end Rule

/-- **Conditions gate and interceptors filter**: a declaration that compiles to a rule compiles,
without its clauses about conditions and interceptors, to the bare rule. The condition of the rule
is the one that was given last, and so is its interceptor, which the type has under this name; where
a handler decides anyway there is none, whatever name is given for one. To whatever objects the rule
was applied before, it is bound as the bare rule that was applied to those which the condition let
through. If the path of the condition leads nowhere, the rule has this error, and if the condition
does not hold, it reports nothing; in both cases it stays as it is. Otherwise it has the error of
the bare rule, or reports what the interceptor makes of what the bare rule reports. -/
theorem conditions_gate_and_interceptors_filter (s : RuleStart) (clauses : List Clause)
    {typeName name : String} {hs : Handlers} {r : Rule}
    (h : (s.declare clauses).compile typeName name hs = .ok r) :
    (s.declare (clauses.filter Clause.isPlain)).compile typeName name hs = .ok r.bare ∧
      ReadsAs (lastOf Clause.condition? clauses) (r.guard.map Guard.path) ∧
      r.interceptor.map NamedHandler.name
        = (if s.kind.isCustom then none
          else RuleDecl.given (lastOf Clause.interceptor? clauses)) ∧
      (∀ i, r.interceptor = some i → hs.find? i.name = some i.run) ∧
      (s.kind.isCustom = true → ∀ other : String,
        (s.declare (clauses ++ [.interceptWith other])).compile typeName name hs = .ok r) ∧
      ∀ before : List Rule.Application,
        (r.after before).bare = r.bare.after (before.filter r.admits) ∧
        ∀ a : Rule.Application,
          (∀ g cause, r.guard = some g → a.owner.object.locate g.path = .error cause →
            (r.after before).runOn a = (.error (.path cause), r.after before)) ∧
          (∀ g, r.guard = some g → g.allows a.owner.object = .ok false →
            (r.after before).runOn a = (.ok none, r.after before)) ∧
          ((∀ g, r.guard = some g → g.allows a.owner.object = .ok true) →
            (∀ e, ((r.bare.after (before.filter r.admits)).runOn a).1 = .error e →
              ((r.after before).runOn a).1 = .error e) ∧
            ∀ raw, ((r.bare.after (before.filter r.admits)).runOn a).1 = .ok raw →
              ((r.after before).runOn a).1
                = .ok (match r.interceptor with
                  | some i => i.run a.owner raw a.field
                  | none => raw)) := by
  obtain ⟨-, hguard, hinterceptor, -⟩ := RuleDecl.compile_eq_ok h
  have hcondition := RuleDecl.readsAs_of_compileGuard hguard
  have hname := RuleDecl.name_of_compileInterceptor hinterceptor
  rw [s.isCustom_declare] at hname
  rw [s.declare_eq] at hcondition hname
  refine ⟨?_, hcondition, hname, fun i hi => RuleDecl.handler_of_compile h hi, ?_, ?_⟩
  · rw [← s.bare_declare]
    exact RuleDecl.compile_bare h
  · intro hcustom other
    have hadd : s.declare (clauses ++ [.interceptWith other])
        = { s.declare clauses with interceptor := some other } := by
      rw [RuleStart.declare, RuleDecl.ofClauses, List.foldl_append]
      rfl
    have hkind : (s.declare clauses).kind.isCustom = true :=
      (s.isCustom_declare clauses).trans hcustom
    rw [hadd, RuleDecl.compile_of_isCustom hkind, h]
  · intro before
    have hbare := r.bare_after before
    refine ⟨hbare, fun a => ?_⟩
    rw [← hbare]
    have happlies := r.applies_after before a.owner.object
    refine ⟨?_, ?_, ?_⟩
    · intro g cause hg hlocate
      have herror : r.applies a.owner.object = .error (.path cause) := by
        rw [Rule.applies, hg]
        exact Guard.allows_eq_error_iff.mpr ⟨cause, hlocate, rfl⟩
      exact Rule.runOn_of_error (happlies.trans herror)
    · intro g hg hdenied
      have hfalse : r.applies a.owner.object = .ok false := by
        rw [Rule.applies, hg]
        exact hdenied
      exact Rule.runOn_of_denied (happlies.trans hfalse)
    · intro hallowed
      have htrue : r.applies a.owner.object = .ok true := by
        rw [Rule.applies]
        split
        · exact hallowed _ ‹_›
        · rfl
      have hintercept :
          (r.after before).intercept a.field a.owner = r.intercept a.field a.owner := by
        rw [r.after_eq]
        rfl
      rw [Rule.fst_runOn_of_allowed (happlies.trans htrue), hintercept]
      refine ⟨?_, ?_⟩
      · intro e he
        rw [he]
        rfl
      · intro raw hraw
        rw [hraw]
        rfl

/-! ### Paid orders -/

/-- What is paid must be below five. -/
def belowFiveIfPaid : List Clause :=
  [.warning "too dear", .validateIf "Paid", .interceptWith "turn"]

/-- A handler that reports what is cheap in place of what is dear. -/
def turnToCheap : Handlers :=
  Handlers.empty.insert "turn" (.invert ⟨.warning, "too cheap"⟩)

/-- The rule that a price must be below five if it is paid, with the last word to `turnToCheap`. -/
def turnedIfPaid : Rule :=
  ⟨.numeric (.fresh (.lessThan ⟨"5", none⟩)), .warning, "too dear", none,
    some ⟨⟨["Paid"], false⟩⟩, some ⟨"turn", .invert ⟨.warning, "too cheap"⟩⟩⟩

/-- The price of an order that is paid or not. -/
def priceOf (paid : Bool) (price : Value) : Rule.Application :=
  ⟨.ofKey "Price" "Price", (⟨"Order", [("Paid", .bool paid), ("Price", price)]⟩ : Entity), none⟩

/-- A price of seven is not reported of an order that is not paid, and does not bind the rule. Of a
paid order the handler has the last word. -/
theorem price_of_paid_order_is_turned :
    ((RuleStart.numberLessThan "5").declare belowFiveIfPaid).compile "Order" "Price" turnToCheap
        = .ok turnedIfPaid ∧
      ((RuleStart.numberLessThan "5").declare [.warning "too dear"]).compile "Order" "Price"
        turnToCheap = .ok turnedIfPaid.bare ∧
      turnedIfPaid.runOn (priceOf false sevenUnits) = (.ok none, turnedIfPaid) ∧
      (turnedIfPaid.bare.runOn (priceOf true sevenUnits)).1
        = .ok (some ⟨.warning, "too dear"⟩) ∧
      (turnedIfPaid.runOn (priceOf true sevenUnits)).1 = .ok none := by
  have hcompile : ((RuleStart.numberLessThan "5").declare belowFiveIfPaid).compile "Order" "Price"
      turnToCheap = .ok turnedIfPaid := by rfl
  obtain ⟨hbare, -, -, -, -, hruns⟩ :=
    conditions_gate_and_interceptors_filter (.numberLessThan "5") belowFiveIfPaid hcompile
  obtain ⟨-, hrun⟩ := hruns []
  obtain ⟨-, hdenied, -⟩ := hrun (priceOf false sevenUnits)
  obtain ⟨-, -, hallowed⟩ := hrun (priceOf true sevenUnits)
  have hpaid : ∀ g, turnedIfPaid.guard = some g →
      g.allows (priceOf true sevenUnits).owner.object = .ok true := by
    rintro g ⟨⟩
    rfl
  have hraw : (turnedIfPaid.bare.runOn (priceOf true sevenUnits)).1
      = .ok (some ⟨.warning, "too dear"⟩) := by rfl
  exact ⟨hcompile, hbare, hdenied _ rfl rfl, hraw, (hallowed hpaid).2 _ hraw⟩

end FieldRules
