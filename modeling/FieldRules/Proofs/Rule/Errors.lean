/-
The errors that rules and declarations may end in.

* `Error.OfRule`: applying a rule may end in a path that leads nowhere, in a
  value of another width or in a bound that is no number, and in nothing else;
* `Error.OfDeclaration`: compiling one may end in a configuration that makes no
  sense, in a handler that the type does not have or in a text that is no path;
* `Rule.Trouble`: the ways in which a rule may have no answer for an object, by
  the part of the rule that has none;
* `Rule.trouble_of_validate`, `RuleDecl.ofDeclaration_of_compile`: the two
  results.
-/
import FieldRules.Proofs.Rule.Conditions
import FieldRules.Proofs.RuleBook.Evaluation
import FieldRules.Rule.Compiled

namespace FieldRules

/-- The causes for which a rule may have no answer. -/
inductive Error.OfRule : Error → Prop
  | path (cause : PathError) : OfRule (.path cause)
  | typeMismatch (field expected found : String) : OfRule (.typeMismatch field expected found)
  | conversion (literal : String) (width : Width) : OfRule (.conversion literal width)

/-- The causes for which a declaration may make no sense. -/
inductive Error.OfDeclaration : Error → Prop
  | configuration (typeName field rule reason : String) :
      OfDeclaration (.configuration typeName field rule reason)
  | missingHandler (handler typeName : String) : OfDeclaration (.missingHandler handler typeName)
  | path (cause : PathError) : OfDeclaration (.path cause)

lemma Error.OfRule.ne_missingFieldName {e : Error} (h : e.OfRule) : e ≠ .missingFieldName := by
  cases h <;> exact nofun

lemma Error.OfRule.ne_unknownField {e : Error} (h : e.OfRule) (field typeName : String) :
    e ≠ .unknownField field typeName := by
  cases h <;> exact nofun

lemma Error.OfDeclaration.ne_missingFieldName {e : Error} (h : e.OfDeclaration) :
    e ≠ .missingFieldName := by
  cases h <;> exact nofun

section Outcomes

variable {α β ε : Type}

/-- An outcome that is turned into another one keeps its error. -/
lemma eq_error_of_map {o : Except ε α} {f : α → β} {e : ε} (h : o.map f = .error e) :
    o = .error e := by
  cases o with
  | error e' => rw [Except.error.inj h]
  | ok a => cases h

/-- An error in two stages is that of the first or that of the second. -/
lemma eq_error_of_bind {o : Except ε α} {f : α → Except ε β} {e : ε} (h : o >>= f = .error e) :
    o = .error e ∨ ∃ a, o = .ok a ∧ f a = .error e := by
  cases o with
  | error e' => exact .inl (congrArg Except.error (Except.error.inj h))
  | ok a => exact .inr ⟨a, rfl, h⟩

end Outcomes

/-! ### Bounds -/

/-- A path that has a name was followed for its error. -/
lemma Path.Strays.ofWalk {p : Path} {owner : Entity} {cause : PathError}
    (h : p.Strays owner (.path cause)) (hp : p.segments ≠ []) : cause.OfWalk := by
  obtain ⟨_, hlocate, heq⟩ := h
  cases heq
  exact Entity.ofWalk_of_locate hp hlocate

/-- The bounds of a comparison, the lower one first. -/
def Comparison.bounds : Comparison → List NumericBound
  | inRange min max => [min, max]
  | lessThan bound | greaterThan bound => [bound]

/-- For each bound of the check, the lower one first, the path that it is taken from. -/
def Check.slots : Check → List (Option Path)
  | numeric c => c.comparison.bounds.map NumericBound.path
  | longer bound | shorter bound => [bound.path]
  | present | custom _ => []

/-! ### Applying a rule -/

/-- The ways in which a check may have no answer for an object. -/
inductive Check.Trouble (c : Check) (owner : Entity) : Error → Prop
  /-- The path that a bound is taken from leads nowhere. -/
  | bound {p : Path} {e : Error} (hp : some p ∈ c.slots) (h : p.Strays owner e) :
      Trouble c owner e
  /-- A value is no number, or not of the width that is compared. -/
  | typeMismatch {n : NumericCheck} (hc : c = .numeric n) (field expected found : String) :
      Trouble c owner (.typeMismatch field expected found)
  /-- A bound is no number of the width that is compared. -/
  | conversion {n : NumericCheck} (hc : c = .numeric n) (literal : String) (width : Width) :
      Trouble c owner (.conversion literal width)

/-- The ways in which a rule may have no answer for an object. -/
inductive Rule.Trouble (r : Rule) (owner : Entity) : Error → Prop
  /-- The path of the condition leads nowhere. -/
  | guard {g : Guard} {e : Error} (hg : r.guard = some g) (h : g.path.Strays owner e) :
      Trouble r owner e
  /-- The check has no answer. -/
  | check {e : Error} (h : r.check.Trouble owner e) : Trouble r owner e

lemma NumericBound.trouble_of_effective {b : NumericBound} {owner : Entity} {w : Width} {e : Error}
    {n : NumericCheck} (hb : b ∈ n.comparison.bounds) (h : b.effective owner w = .error e) :
    (Check.numeric n).Trouble owner e := by
  have hconfigured : b.configured w = .error e → (Check.numeric n).Trouble owner e := by
    intro h
    rw [configured] at h
    split at h <;> cases h
    exact .conversion rfl _ _
  rw [effective] at h
  split at h
  · exact hconfigured h
  · rename_i p hp
    split at h
    · rename_i cause hresolve
      cases h
      exact .bound (hp ▸ List.mem_map_of_mem hb)
        ⟨cause, Entity.resolve_eq_error_iff.mp hresolve, rfl⟩
    · split at h
      · cases h
      · exact hconfigured h

lemma LengthBound.strays_of_effective {b : LengthBound} {owner : Entity} {e : Error}
    (h : b.effective owner = .error e) : ∃ p, b.path = some p ∧ p.Strays owner e := by
  rw [effective] at h
  split at h
  · cases h
  · rename_i p hp
    split at h <;> cases h
    exact ⟨p, hp, _, Entity.resolve_eq_error_iff.mp ‹_›, rfl⟩

lemma Comparison.trouble_of_holds {n : NumericCheck} {owner : Entity} {v : Number} {e : Error}
    (h : n.comparison.holds owner v = .error e) : (Check.numeric n).Trouble owner e := by
  have hbound : ∀ b ∈ n.comparison.bounds, b.effective owner v.width = .error e →
      (Check.numeric n).Trouble owner e :=
    fun b hb => NumericBound.trouble_of_effective hb
  cases hc : n.comparison with
  | inRange min max =>
      rw [hc] at h hbound
      rcases eq_error_of_bind h with h | ⟨_, _, h⟩
      · exact hbound min (by simp [bounds]) h
      · rcases eq_error_of_bind h with h | ⟨_, _, h⟩
        · exact hbound max (by simp [bounds]) h
        · cases h
  | lessThan bound | greaterThan bound =>
      rw [hc] at h hbound
      rcases eq_error_of_bind h with h | ⟨_, _, h⟩
      · exact hbound bound (by simp [bounds]) h
      · cases h

lemma NumericCheck.trouble_of_passes {n : NumericCheck} {field : String} {v : Value}
    {owner : Entity} {e : Error} (h : n.passes field v owner = .error e) :
    (Check.numeric n).Trouble owner e := by
  rw [passes] at h
  split at h
  · rename_i haccept
    cases h
    rw [accept] at haccept
    split at haccept
    · cases haccept
      exact .typeMismatch rfl _ _ _
    · split at haccept <;> cases haccept
      exact .typeMismatch rfl _ _ _
  · exact Comparison.trouble_of_holds h

lemma Check.trouble_of_validate {c : Check} {field : Field} {owner : Instance}
    {candidate : Message} {e : Error} (h : c.validate field owner candidate = .error e) :
    c.Trouble owner.object e := by
  cases c with
  | present => cases h
  | numeric n => exact NumericCheck.trouble_of_passes (eq_error_of_map h)
  | longer b | shorter b =>
      obtain ⟨p, hp, hstrays⟩ := LengthBound.strays_of_effective (eq_error_of_map h)
      exact .bound (List.mem_singleton.mpr hp.symm) hstrays
  | custom delegate => cases delegate <;> cases h

/-- The ways in which rules fail. -/
lemma Rule.trouble_of_validate {r : Rule} {field : Field} {owner : Instance}
    {localizer : Option Localizer} {e : Error} (h : r.validate field owner localizer = .error e) :
    r.Trouble owner.object e := by
  rw [validate] at h
  split at h
  · rename_i happlies
    cases h
    rw [applies] at happlies
    split at happlies
    · exact .guard ‹_› (Guard.strays_of_allows happlies)
    · cases happlies
  · cases h
  · exact .check (Check.trouble_of_validate (eq_error_of_map h))

/-- The errors of rules. -/
lemma Rule.Trouble.ofRule {r : Rule} {owner : Entity} {e : Error} (h : r.Trouble owner e) :
    e.OfRule := by
  cases h with
  | guard _ hstrays =>
      obtain ⟨cause, _, rfl⟩ := hstrays
      exact .path cause
  | check hc =>
      cases hc with
      | bound _ hstrays =>
          obtain ⟨cause, _, rfl⟩ := hstrays
          exact .path cause
      | typeMismatch _ field expected found => exact .typeMismatch field expected found
      | conversion _ literal width => exact .conversion literal width

/-- The errors of the rules of a field. -/
lemma RuleBook.Entry.ofRule_of_evaluate {b : Entry} {owner : Instance}
    {localizer : Option Localizer} {e : Error} (h : (b.evaluate owner localizer).1 = .error e) :
    e.OfRule := by
  rw [fst_evaluate] at h
  obtain ⟨_, _, _, _, _, hr⟩ := mapM_eq_error_iff.mp (eq_error_of_map h)
  exact (Rule.trouble_of_validate hr).ofRule

/-- The errors of the rules of a book. -/
lemma RuleBook.ofRule_of_evaluate {b : RuleBook} {owner : Instance}
    {localizer : Option Localizer} {e : Error} (h : (b.evaluate owner localizer).1 = .error e) :
    e.OfRule := by
  rw [evaluate] at h
  simp only [fst_evaluateEntries] at h
  obtain ⟨_, _, _, _, _, hr⟩ := mapM_eq_error_iff.mp h
  exact Entry.ofRule_of_evaluate (eq_error_of_map hr)

/-! ### Compiling a declaration -/

namespace RuleDecl

variable {d : RuleDecl} {typeName field : String} {hs : Handlers} {e : Error}

lemma ofDeclaration_of_path? {raw : Option String} (h : path? raw = .error e) :
    e.OfDeclaration := by
  rw [path?] at h
  split at h
  · cases h
  · rename_i s _
    rw [orPathError] at h
    cases hp : (Path.parse s).map some with
    | error cause =>
        rw [hp] at h
        cases h
        exact .path cause
    | ok p =>
        rw [hp] at h
        cases h

lemma ofDeclaration_of_handler {name : String} (h : handler typeName hs name = .error e) :
    e.OfDeclaration := by
  rw [handler] at h
  split at h <;> cases h
  exact .missingHandler _ _

lemma ofDeclaration_of_checkedKind (h : d.checkedKind typeName field = .error e) :
    e.OfDeclaration := by
  rw [checkedKind] at h
  split at h
  · cases h
    exact .configuration _ _ _ _
  · split at h <;> cases h
    exact .configuration _ _ _ _

lemma ofDeclaration_of_compileInterceptor (h : d.compileInterceptor typeName hs = .error e) :
    e.OfDeclaration := by
  rw [compileInterceptor] at h
  split at h
  · cases h
  · split at h
    · cases h
    · exact ofDeclaration_of_handler (eq_error_of_map h)

lemma ofDeclaration_of_compileCheck {kind : RuleKind}
    (h : compileCheck typeName hs kind = .error e) :
    e.OfDeclaration := by
  cases kind with
  | valuePresent => cases h
  | numberInRange min max minPath maxPath =>
      rcases eq_error_of_bind h with h | ⟨_, _, h⟩
      · exact ofDeclaration_of_path? h
      · rcases eq_error_of_bind h with h | ⟨_, _, h⟩
        · exact ofDeclaration_of_path? h
        · cases h
  | numberLessThan bound path =>
      rcases eq_error_of_bind h with h | ⟨_, _, h⟩
      · exact ofDeclaration_of_path? h
      · cases h
  | numberGreaterThan bound path =>
      rcases eq_error_of_bind h with h | ⟨_, _, h⟩
      · exact ofDeclaration_of_path? h
      · cases h
  | lengthGreaterThan min path =>
      rcases eq_error_of_bind h with h | ⟨_, _, h⟩
      · exact ofDeclaration_of_path? h
      · cases h
  | lengthLessThan max path =>
      rcases eq_error_of_bind h with h | ⟨_, _, h⟩
      · exact ofDeclaration_of_path? h
      · cases h
  | custom delegate =>
      cases delegate with
      | none => cases h
      | some name => exact ofDeclaration_of_handler (eq_error_of_map h)

/-- The errors of declarations. -/
lemma ofDeclaration_of_compile (h : d.compile typeName field hs = .error e) :
    e.OfDeclaration := by
  rcases eq_error_of_bind h with h | ⟨_, _, h⟩
  · exact ofDeclaration_of_checkedKind h
  · rcases eq_error_of_bind h with h | ⟨_, _, h⟩
    · exact ofDeclaration_of_path? (eq_error_of_map h)
    · rcases eq_error_of_bind h with h | ⟨_, _, h⟩
      · exact ofDeclaration_of_compileInterceptor h
      · rcases eq_error_of_bind h with h | ⟨_, _, h⟩
        · exact ofDeclaration_of_compileCheck h
        · cases h

end RuleDecl

end FieldRules
