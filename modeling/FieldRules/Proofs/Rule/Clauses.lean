/-
Declared rules and the clauses that they were made of.

* `RuleStart`: the ways to begin a rule; `RuleStart.declare`: the rule that begins
  so and has clauses added;
* `lastOf`: what the last clause says that speaks of something;
* `RuleStart.misfit?`: the name of a clause that makes no sense for the rule;
* `RuleStart.slots`: for each bound the path that it is taken from, if any;
* `RuleStart.declare_eq`: the beginning and the clauses tell all there is to a
  declared rule.
-/
import FieldRules.Rule.Declared
import Mathlib.Data.List.Induction
import Mathlib.Tactic.Lemma

namespace FieldRules

/-- The ways to begin a rule. -/
inductive RuleStart where
  /-- There must be something. -/
  | valuePresent
  /-- A number must lie between two bounds. -/
  | numberInRange (min max : String)
  /-- A number must lie below a bound. -/
  | numberLessThan (bound : String)
  /-- A number must lie above a bound. -/
  | numberGreaterThan (bound : String)
  /-- A text must be long enough. -/
  | lengthGreaterThan (min : Int)
  /-- A text must be short enough. -/
  | lengthLessThan (max : Int)
  /-- The handler of this name decides. -/
  | custom (handler : String)

/-- What the last clause says that speaks of something. -/
def lastOf {α : Type} (f : Clause → Option α) (clauses : List Clause) : Option α :=
  clauses.reverse.findSome? f

namespace Clause

/-- The kind of the messages that the clause asks for. -/
def kind? : Clause → Option MessageKind
  | error _ => some .error
  | warning _ => some .warning
  | messageKind kind => some kind
  | _ => none

/-- The text of the messages that the clause asks for. -/
def text? : Clause → Option String
  | error text | warning text | failureMessage text => some text
  | _ => none

/-- The key of the localized text that the clause asks for. -/
def key? : Clause → Option String
  | localized key => some key
  | _ => none

/-- The path of the condition that the clause sets. -/
def condition? : Clause → Option String
  | validateIf path => some path
  | _ => none

/-- The handler that the clause gives the last word. -/
def interceptor? : Clause → Option String
  | interceptWith handler => some handler
  | _ => none

/-- The path that a single bound is taken from. -/
def bound? : Clause → Option String
  | comparedTo path => some path
  | _ => none

/-- The path that the lower of two bounds is taken from. -/
def min? : Clause → Option String
  | minComparedTo path => some path
  | _ => none

/-- The path that the upper of two bounds is taken from. -/
def max? : Clause → Option String
  | maxComparedTo path => some path
  | _ => none

end Clause

namespace RuleStart

/-- The kind of a rule with this beginning that takes its bounds from these paths: a single bound,
the lower one and the upper one of two. -/
def kindWith (s : RuleStart) (bound low high : Option String) : RuleKind :=
  match s with
  | valuePresent => .valuePresent
  | numberInRange min max => .numberInRange min max low high
  | numberLessThan n => .numberLessThan n bound
  | numberGreaterThan n => .numberGreaterThan n bound
  | lengthGreaterThan min => .lengthGreaterThan min bound
  | lengthLessThan max => .lengthLessThan max bound
  | custom handler => .ofDelegate handler

/-- The kind of a rule with this beginning. -/
def kind (s : RuleStart) : RuleKind :=
  s.kindWith none none none

/-- The rule with this beginning and with clauses that are added in order. -/
def declare (s : RuleStart) (clauses : List Clause) : RuleDecl :=
  .ofClauses s.kind clauses

/-- Whether the rule has a single bound. -/
def hasOneBound : RuleStart → Bool
  | numberLessThan _ | numberGreaterThan _ | lengthGreaterThan _ | lengthLessThan _ => true
  | valuePresent | numberInRange .. | custom _ => false

/-- Whether the rule has a lower and an upper bound. -/
def hasTwoBounds : RuleStart → Bool
  | numberInRange .. => true
  | _ => false

/-- The name of a clause that makes no sense for the rule. Only bounds are not for every rule. -/
def misfit? (s : RuleStart) : Clause → Option String
  | .comparedTo _ => if s.hasOneBound then none else some "compared_to"
  | .minComparedTo _ => if s.hasTwoBounds then none else some "min_compared_to"
  | .maxComparedTo _ => if s.hasTwoBounds then none else some "max_compared_to"
  | _ => none

/-- For each bound of the rule, the lower one first, the path that it is taken from. -/
def slots (s : RuleStart) (clauses : List Clause) : List (Option String) :=
  match s with
  | numberInRange .. => [lastOf Clause.min? clauses, lastOf Clause.max? clauses]
  | numberLessThan _ | numberGreaterThan _ | lengthGreaterThan _ | lengthLessThan _ =>
    [lastOf Clause.bound? clauses]
  | valuePresent | custom _ => []

/-- The kind of rule once the clauses were added. -/
def kindAfter (s : RuleStart) (clauses : List Clause) : RuleKind :=
  s.kindWith (lastOf Clause.bound? clauses) (lastOf Clause.min? clauses)
    (lastOf Clause.max? clauses)

end RuleStart

/-! ### One clause after the other -/

section Clauses

variable {α : Type} (f : Clause → Option α)

/-- Of two clauses about one thing the later counts. -/
lemma lastOf_append_singleton (clauses : List Clause) (c : Clause) :
    lastOf f (clauses ++ [c]) = (f c).or (lastOf f clauses) := by
  rw [lastOf, lastOf, List.reverse_append, List.reverse_singleton, List.singleton_append,
    List.findSome?_cons]
  cases f c <;> rfl

end Clauses

namespace RuleStart

variable {s : RuleStart} {d : RuleDecl} {bound low high : Option String}

/-- A single bound is taken from the path, or the clause is noted. -/
lemma compareTo_eq (h : d.kind = s.kindWith bound low high) (path : String) :
    d.compareTo path
      = { d with
          kind := s.kindWith (some path) low high
          misapplied := d.misapplied ++ (s.misfit? (.comparedTo path)).toList } := by
  obtain ⟨kind, messageKind, text, key, guard, interceptor, misapplied⟩ := d
  obtain rfl : kind = s.kindWith bound low high := h
  cases s <;> simp [RuleDecl.compareTo, RuleDecl.misapply, RuleKind.ofDelegate, kindWith, misfit?,
    hasOneBound]

/-- The lower of two bounds is taken from the path, or the clause is noted. -/
lemma compareMinTo_eq (h : d.kind = s.kindWith bound low high) (path : String) :
    d.compareMinTo path
      = { d with
          kind := s.kindWith bound (some path) high
          misapplied := d.misapplied ++ (s.misfit? (.minComparedTo path)).toList } := by
  obtain ⟨kind, messageKind, text, key, guard, interceptor, misapplied⟩ := d
  obtain rfl : kind = s.kindWith bound low high := h
  cases s <;> simp [RuleDecl.compareMinTo, RuleDecl.misapply, RuleKind.ofDelegate, kindWith,
    misfit?, hasTwoBounds]

/-- The upper of two bounds is taken from the path, or the clause is noted. -/
lemma compareMaxTo_eq (h : d.kind = s.kindWith bound low high) (path : String) :
    d.compareMaxTo path
      = { d with
          kind := s.kindWith bound low (some path)
          misapplied := d.misapplied ++ (s.misfit? (.maxComparedTo path)).toList } := by
  obtain ⟨kind, messageKind, text, key, guard, interceptor, misapplied⟩ := d
  obtain rfl : kind = s.kindWith bound low high := h
  cases s <;> simp [RuleDecl.compareMaxTo, RuleDecl.misapply, RuleKind.ofDelegate, kindWith,
    misfit?, hasTwoBounds]

/-- The beginning and the clauses tell all there is to a declared rule. -/
lemma declare_eq (s : RuleStart) (clauses : List Clause) :
    s.declare clauses
      = ⟨s.kindAfter clauses, lastOf Clause.kind? clauses, (lastOf Clause.text? clauses).getD "",
          lastOf Clause.key? clauses, lastOf Clause.condition? clauses,
          lastOf Clause.interceptor? clauses, clauses.filterMap s.misfit?⟩ := by
  induction clauses using List.reverseRecOn with
  | nil => rfl
  | append_singleton clauses c ih =>
      have hstep : s.declare (clauses ++ [c]) = (s.declare clauses).add c := by
        rw [declare, RuleDecl.ofClauses, List.foldl_append]
        rfl
      have hmisfits : (clauses ++ [c]).filterMap s.misfit?
          = clauses.filterMap s.misfit? ++ (s.misfit? c).toList := by
        rw [List.filterMap_append]
        cases h : s.misfit? c <;> simp [h]
      rw [hstep, ih, kindAfter, kindAfter, hmisfits]
      simp only [lastOf_append_singleton]
      -- only the clauses about bounds look at the kind of rule
      cases c with
      | comparedTo path => exact compareTo_eq rfl path
      | minComparedTo path => exact compareMinTo_eq rfl path
      | maxComparedTo path => exact compareMaxTo_eq rfl path
      | error _ | warning _ | messageKind _ | failureMessage _ | localized _ | validateIf _
      | interceptWith _ =>
          simp only [misfit?, Option.toList_none, List.append_nil]
          rfl

end RuleStart

end FieldRules
