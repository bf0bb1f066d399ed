/-
What an action makes of the books in use.

* `Action.needsBook`, `Action.leaves`: whether an action goes on with the book of
  its type, and what it makes of that book;
* `apply_of_getOrBuild_error`: if there is no book, it ends in the error that
  there is instead;
* `registry_apply_cases`: otherwise the registry keeps what it makes of the book.
-/
import FieldRules.Proofs.Site.Writes

namespace FieldRules

namespace Action

/-- Whether the action goes on with the rule book of its type. -/
def needsBook : Action → Bool
  | registerRuleFields | validateAll | validateField _ | fieldMessages => true
  | refresh field | perform _ field => !field.isEmpty
  | _ => false

/-- What the action on the object makes of the book of its type. -/
def leaves (x : Instance) (b : RuleBook) : Action → RuleBook
  | validateAll => (x.validateAll b).2.1
  | validateField field => (x.validateField b field).2.1
  | refresh field => if field.isEmpty then b else (x.refresh b field).2.1
  | _ => b

/-- An action binds the book of its type at most. -/
lemma binds_leaves (x : Instance) (b : RuleBook) (a : Action) : b.Binds (a.leaves x b) := by
  cases a with
  | validateAll => exact (x.orderly_validateAll b).binds
  | validateField field => exact (x.orderly_validateField b field).binds
  | refresh field =>
      rw [leaves]
      split
      · exact .refl b
      · exact (x.orderly_refresh b field).binds
  | _ => exact .refl b

/-- An action that goes on without a book makes nothing of one. -/
lemma leaves_of_needsBook_eq_false {a : Action} (h : a.needsBook = false) (x : Instance)
    (b : RuleBook) : a.leaves x b = b := by
  cases a with
  | validateAll | validateField _ => cases h
  | refresh field =>
      have hempty : field.isEmpty = true := by simpa [needsBook] using h
      exact if_pos hempty
  | _ => rfl

variable {m : Model} {s : Site} {a : Action}

/-- An action that goes on without a book leaves the registry alone. -/
lemma registry_apply_of_needsBook_eq_false (h : a.needsBook = false) :
    (a.apply m s).2.registry = s.registry := by
  cases a with
  | registerRuleFields | validateAll | validateField _ | fieldMessages => cases h
  | refresh field =>
      have hempty : field.isEmpty = true := by simpa [needsBook] using h
      rw [apply, if_pos hempty]
  | perform rule field =>
      have hempty : field.isEmpty = true := by simpa [needsBook] using h
      rw [apply, if_pos hempty]
  | add msg field =>
      rw [apply]
      split <;> rfl
  | _ => rfl

/-- If there is no book to go on with, the action ends in the error of the declarations, and nothing
happens. -/
lemma apply_of_getOrBuild_error (h : a.needsBook = true) {e : Error}
    (hbook : (s.registry.getOrBuild m).1 = .error e) : a.apply m s = (.failed e, s) := by
  have hpair : s.registry.getOrBuild m = (.error e, (s.registry.getOrBuild m).2) :=
    Prod.ext hbook rfl
  cases a with
  | registerRuleFields =>
      rw [apply]
      exact Site.withBook_of_error hpair _
  | validateAll =>
      rw [apply]
      exact Site.applying_of_error hpair _
  | validateField field =>
      rw [apply]
      exact Site.applying_of_error hpair _
  | fieldMessages =>
      rw [apply]
      exact Site.withBook_of_error hpair _
  | refresh field =>
      have hne : field.isEmpty = false := by simpa [needsBook] using h
      rw [apply, if_neg (Bool.eq_false_iff.mp hne)]
      exact Site.applying_of_error hpair _
  | perform rule field =>
      have hne : field.isEmpty = false := by simpa [needsBook] using h
      rw [apply, if_neg (Bool.eq_false_iff.mp hne)]
      exact Site.withBook_of_error hpair _
  | _ => cases h

/-- If there is a book to go on with, the registry keeps what the action makes of it. -/
lemma registry_apply_of_getOrBuild_ok (h : a.needsBook = true) {b : RuleBook}
    (hbook : (s.registry.getOrBuild m).1 = .ok b) :
    (a.apply m s).2.registry
        = (s.registry.getOrBuild m).2.update m.typeName (a.leaves s.subject b) ∨
      (a.apply m s).2.registry = (s.registry.getOrBuild m).2 ∧ a.leaves s.subject b = b := by
  have hpair : s.registry.getOrBuild m = (.ok b, (s.registry.getOrBuild m).2) :=
    Prod.ext hbook rfl
  cases a with
  | registerRuleFields =>
      rw [apply, Site.withBook_of_ok hpair]
      exact .inr ⟨rfl, rfl⟩
  | validateAll =>
      rw [apply, Site.applying_of_ok hpair]
      exact .inl rfl
  | validateField field =>
      rw [apply, Site.applying_of_ok hpair]
      exact .inl rfl
  | fieldMessages =>
      rw [apply, Site.withBook_of_ok hpair]
      exact .inr ⟨rfl, rfl⟩
  | refresh field =>
      have hne : field.isEmpty = false := by simpa [needsBook] using h
      rw [apply, leaves, if_neg (Bool.eq_false_iff.mp hne), if_neg (Bool.eq_false_iff.mp hne),
        Site.applying_of_ok hpair]
      exact .inl rfl
  | perform rule field =>
      have hne : field.isEmpty = false := by simpa [needsBook] using h
      rw [apply, if_neg (Bool.eq_false_iff.mp hne), Site.withBook_of_ok hpair]
      exact .inr ⟨rfl, rfl⟩
  | _ => cases h

/-- The registry after an action: as it was, or with the book that was asked for, as it was found or
as the action leaves it. -/
lemma registry_apply_cases (m : Model) (s : Site) (a : Action) :
    (a.needsBook = false ∧ (a.apply m s).2.registry = s.registry) ∨
      (a.needsBook = true ∧ (a.apply m s).2.registry = (s.registry.getOrBuild m).2 ∧
        ∀ b, (s.registry.getOrBuild m).1 = .ok b → a.leaves s.subject b = b) ∨
      (a.needsBook = true ∧ ∃ b, (s.registry.getOrBuild m).1 = .ok b ∧
        (a.apply m s).2.registry
          = (s.registry.getOrBuild m).2.update m.typeName (a.leaves s.subject b)) := by
  cases hneeds : a.needsBook with
  | false => exact .inl ⟨rfl, registry_apply_of_needsBook_eq_false hneeds⟩
  | true =>
      cases hbook : (s.registry.getOrBuild m).1 with
      | error e =>
          have hsame : (s.registry.getOrBuild m).2 = s.registry :=
            Registry.eq_of_getOrBuild_error (Prod.ext hbook rfl)
          rw [apply_of_getOrBuild_error hneeds hbook, hsame]
          exact .inr (.inl ⟨rfl, rfl, nofun⟩)
      | ok b =>
          rcases registry_apply_of_getOrBuild_ok hneeds hbook with hregistry | ⟨hregistry, hleaves⟩
          · exact .inr (.inr ⟨rfl, b, rfl, hregistry⟩)
          · refine .inr (.inl ⟨rfl, hregistry, fun b' hb' => ?_⟩)
            obtain rfl := Except.ok.inj hb'
            exact hleaves

end Action

end FieldRules
