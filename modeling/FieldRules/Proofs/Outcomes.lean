/-
Lists that go together element by element, and lists of outcomes, of which the
first error decides.

* `forall₂_trans`, `map_eq_map_of_forall₂`, `exists_left_of_forall₂`,
  `exists_right_of_forall₂`: what follows from one relation for all elements;
* `mapM_eq_ok_iff`: all is well if every single outcome is;
* `mapM_eq_error_iff`: otherwise the error is that of the first element that has
  one;
* `mapM_congr`: the outcome depends on the elements of the list alone;
* `map_eq_ok_iff`, `bind_eq_ok_iff`: an answer in several stages;
* `errorOf`: the error of an outcome, and `errorOf_map`, `errorOf_bind`,
  `errorOf_mapM`: what becomes of it;
* `AgreesUpTo`: two outcomes agree, or they are errors that stand in a relation.
-/
import Mathlib.Data.List.Forall2
import Mathlib.Tactic.Lemma

namespace FieldRules

variable {α β γ ε : Type}

/-! ### Lists that go together -/

/-- What holds between neighbours of three lists holds between the outer ones. -/
lemma forall₂_trans {R : α → α → Prop} (hR : ∀ {a b c}, R a b → R b c → R a c)
    {as bs cs : List α} (h : List.Forall₂ R as bs) (h' : List.Forall₂ R bs cs) :
    List.Forall₂ R as cs := by
  induction h generalizing cs with
  | nil => exact h'
  | cons hab _ ih =>
      cases h' with
      | cons hbc hrest => exact .cons (hR hab hbc) (ih hrest)

/-- If the elements have something in common, the lists have it. -/
lemma map_eq_map_of_forall₂ {f : α → γ} {g : β → γ} {as : List α} {bs : List β}
    (h : List.Forall₂ (fun a b => f a = g b) as bs) : as.map f = bs.map g := by
  have heq : List.Forall₂ Eq (as.map f) (bs.map g) :=
    List.forall₂_map_left_iff.mpr (List.forall₂_map_right_iff.mpr h)
  rwa [List.forall₂_eq_eq_eq] at heq

variable {R : α → β → Prop} {as : List α} {bs : List β}

lemma exists_left_of_forall₂ (h : List.Forall₂ R as bs) {b : β} (hb : b ∈ bs) :
    ∃ a ∈ as, R a b := by
  induction h with
  | nil => cases hb
  | @cons a b' as bs hab _ ih =>
      rcases List.mem_cons.mp hb with rfl | hb
      · exact ⟨a, List.mem_cons_self, hab⟩
      · obtain ⟨a', ha', hab'⟩ := ih hb
        exact ⟨a', List.mem_cons_of_mem a ha', hab'⟩

lemma exists_right_of_forall₂ (h : List.Forall₂ R as bs) {a : α} (ha : a ∈ as) :
    ∃ b ∈ bs, R a b :=
  exists_left_of_forall₂ h.flip ha

/-! ### Lists of outcomes -/

/-- All is well if and only if every single outcome is. -/
lemma mapM_eq_ok_iff {f : α → Except ε β} {as : List α} {bs : List β} :
    as.mapM f = .ok bs ↔ List.Forall₂ (fun a b => f a = .ok b) as bs := by
  induction as generalizing bs with
  | nil => cases bs <;> simp [pure, Except.pure]
  | cons a rest ih =>
      rw [List.mapM_cons]
      cases ha : f a with
      | error e => cases bs <;> simp [bind, Except.bind, ha]
      | ok b =>
          cases hrest : rest.mapM f with
          | error e => cases bs <;> simp [bind, Except.bind, ha, ← ih, hrest]
          | ok bs' => cases bs <;> simp [bind, Except.bind, pure, Except.pure, ha, ← ih, hrest]

/-- An error is that of the first element that has one. -/
lemma mapM_eq_error_iff {f : α → Except ε β} {as : List α} {e : ε} :
    as.mapM f = .error e ↔
      ∃ front a back, as = front ++ a :: back ∧ (∀ x ∈ front, ∃ b, f x = .ok b) ∧
        f a = .error e := by
  induction as with
  | nil => simp [pure, Except.pure]
  | cons a rest ih =>
      rw [List.mapM_cons]
      cases ha : f a with
      | error e' =>
          simp only [bind, Except.bind, Except.error.injEq]
          constructor
          · rintro rfl
            exact ⟨[], a, rest, rfl, by simp, ha⟩
          · rintro ⟨front, x, back, hsplit, hfront, hx⟩
            cases front with
            | nil =>
                obtain ⟨rfl, -⟩ := List.cons.inj hsplit
                rw [ha] at hx
                exact Except.error.inj hx
            | cons y front =>
                obtain ⟨rfl, -⟩ := List.cons.inj hsplit
                obtain ⟨b, hb⟩ := hfront a List.mem_cons_self
                rw [ha] at hb
                cases hb
      | ok b =>
          have hstep : (do let b ← Except.ok b; let bs ← rest.mapM f; pure (b :: bs))
              = (.error e : Except ε (List β)) ↔ rest.mapM f = .error e := by
            cases rest.mapM f <;> simp [bind, Except.bind, pure, Except.pure]
          rw [hstep, ih]
          constructor
          · rintro ⟨front, x, back, rfl, hfront, hx⟩
            refine ⟨a :: front, x, back, rfl, ?_, hx⟩
            intro y hy
            rcases List.mem_cons.mp hy with rfl | hy
            · exact ⟨b, ha⟩
            · exact hfront y hy
          · rintro ⟨front, x, back, hsplit, hfront, hx⟩
            cases front with
            | nil =>
                obtain ⟨rfl, -⟩ := List.cons.inj hsplit
                rw [ha] at hx
                cases hx
            | cons y front =>
                obtain ⟨rfl, rfl⟩ := List.cons.inj hsplit
                exact ⟨front, x, back, rfl, fun z hz => hfront z (List.mem_cons_of_mem a hz), hx⟩

/-- The outcome depends on the elements of the list alone. -/
lemma mapM_congr {f g : α → Except ε β} {as : List α} (h : ∀ a ∈ as, f a = g a) :
    as.mapM f = as.mapM g := by
  induction as with
  | nil => rfl
  | cons a rest ih =>
      rw [List.mapM_cons, List.mapM_cons, h a List.mem_cons_self,
        ih fun x hx => h x (List.mem_cons_of_mem a hx)]

/-! ### Stages -/

lemma map_eq_ok_iff {o : Except ε α} {f : α → β} {b : β} :
    o.map f = .ok b ↔ ∃ a, o = .ok a ∧ f a = b := by
  cases o <;> simp [Except.map]

lemma bind_eq_ok_iff {o : Except ε α} {f : α → Except ε β} {b : β} :
    o >>= f = .ok b ↔ ∃ a, o = .ok a ∧ f a = .ok b := by
  cases o <;> simp [bind, Except.bind]

/-- The error, if there is no answer. -/
def errorOf : Except ε α → Option ε
  | .error e => some e
  | .ok _ => none

lemma errorOf_eq_some_iff {o : Except ε α} {e : ε} : errorOf o = some e ↔ o = .error e := by
  cases o <;> simp [errorOf]

lemma errorOf_eq_none_iff {o : Except ε α} : errorOf o = none ↔ ∃ a, o = .ok a := by
  cases o <;> simp [errorOf]

/-- Where there is nothing to answer, the error is all there is to an outcome. -/
lemma eq_of_errorOf {o o' : Except ε Unit} (h : errorOf o = errorOf o') : o = o' := by
  cases o <;> cases o' <;> simp_all [errorOf]

@[simp] lemma errorOf_map (o : Except ε α) (f : α → β) : errorOf (o.map f) = errorOf o := by
  cases o <;> rfl

/-- In two stages the first error counts. The second one must not depend on the first answer. -/
lemma errorOf_bind {o : Except ε α} {f : α → Except ε β} {e : Option ε}
    (h : ∀ a, errorOf (f a) = e) : errorOf (o >>= f) = (errorOf o).or e := by
  cases o with
  | error e' => rfl
  | ok a => exact h a

@[simp] lemma errorOf_bind_pure (o : Except ε α) (f : α → β) :
    errorOf (o >>= fun a => pure (f a)) = errorOf o := by
  cases o <;> rfl

/-- What is found first is found at the head, or else behind it. -/
lemma findSome?_cons_eq_or (f : α → Option β) (a : α) (as : List α) :
    (a :: as).findSome? f = (f a).or (as.findSome? f) := by
  rw [List.findSome?_cons]
  cases f a <;> rfl

/-- Of many outcomes the first error counts. -/
lemma errorOf_mapM (f : α → Except ε β) (as : List α) :
    errorOf (as.mapM f) = as.findSome? fun a => errorOf (f a) := by
  induction as with
  | nil => rfl
  | cons a rest ih =>
      rw [List.mapM_cons, findSome?_cons_eq_or, ← ih]
      exact errorOf_bind fun b => errorOf_bind_pure _ _

/-! ### Outcomes that agree -/

/-- Two outcomes agree, or they are errors that stand in the relation. -/
inductive AgreesUpTo (D : ε → ε → Prop) : Except ε α → Except ε α → Prop
  | same (o : Except ε α) : AgreesUpTo D o o
  | errors {e e' : ε} (h : D e e') : AgreesUpTo D (.error e) (.error e')

namespace AgreesUpTo

variable {D D' : ε → ε → Prop} {o o' : Except ε α} {e e' : ε}

lemma imp (hD : ∀ e e', D e e' → D' e e') (h : AgreesUpTo D o o') : AgreesUpTo D' o o' := by
  cases h with
  | same => exact .same o
  | errors h => exact .errors (hD _ _ h)

lemma map (h : AgreesUpTo D o o') (f : α → β) : AgreesUpTo D (o.map f) (o'.map f) := by
  cases h with
  | same => exact .same (o.map f)
  | errors h => exact .errors h

/-- In two stages: if the first ones agree, the second ones need to agree on their answer alone. -/
lemma bind {f g : α → Except ε β} (h : AgreesUpTo D o o')
    (hfg : ∀ a, o' = .ok a → AgreesUpTo D (f a) (g a)) : AgreesUpTo D (o >>= f) (o' >>= g) := by
  cases h with
  | same =>
      cases o with
      | error e => exact .same (.error e)
      | ok a => exact hfg a rfl
  | errors h => exact .errors h

/-- If one of the two is an answer, so is the other. -/
lemma eq_ok {a : α} (h : AgreesUpTo D o o') (ho' : o' = .ok a) : o = .ok a := by
  cases h with
  | same => exact ho'
  | errors => cases ho'

/-- If one of the two is an error, so is the other. -/
lemma exists_error (h : AgreesUpTo D o o') (ho' : o' = .error e') :
    ∃ e, o = .error e ∧ (e = e' ∨ D e e') := by
  cases h with
  | same => exact ⟨e', ho', .inl rfl⟩
  | errors h =>
      cases ho'
      exact ⟨_, rfl, .inr h⟩

lemma of_error (h : e = e' ∨ D e e') :
    AgreesUpTo D (.error e : Except ε α) (.error e') := by
  rcases h with rfl | h
  · exact .same _
  · exact .errors h

end AgreesUpTo

end FieldRules
