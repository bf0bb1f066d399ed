/-
The books of a registry.

* `get?_update_self`, `get?_update_of_ne`: after a book was put in the place of
  another;
* `getOrBuild_cases`: a book is found, or built and kept, or its declarations
  make no sense and nothing is kept;
* `getOrBuild_update`: what was put in the place of a book is used from then on;
* `get?_getOrBuild_of_ne`, `get?_getOrBuild_of_some`: the other books, and those
  that are there, stay;
* `toOption_getOrBuild`, `get?_getOrBuild`: the book that is asked for is the one
  that is there or the one that is built, and it is there from then on;
* `Registry.names`, `names_update`, `names_getOrBuild_of_ok`,
  `snd_getOrBuild_of_error`: the types whose books were built.
-/
import FieldRules.Registry
import FieldRules.Proofs.Enlisting

namespace FieldRules

namespace Registry

variable {r : Registry} {m : Model} {b : RuleBook} {typeName : String}

/-- A book that is put in the place of another is found there. -/
lemma get?_update_self (h : (r.get? typeName).isSome) (b : RuleBook) :
    (r.update typeName b).get? typeName = some b := by
  rw [get?] at h
  rw [get?, update]
  generalize r.books = books at h
  induction books with
  | nil => cases h
  | cons e rest ih =>
      obtain ⟨name, old⟩ := e
      by_cases hname : name = typeName
      · simp [hname]
      · have hne : (typeName == name) = false := by simpa using Ne.symm hname
        rw [List.lookup_cons, hne] at h
        rw [List.map_cons, if_neg hname, List.lookup_cons, hne]
        exact ih h

/-- To put a book in the place of another leaves those of the other types. -/
lemma get?_update_of_ne {other : String} (hne : other ≠ typeName) (b : RuleBook) :
    (r.update typeName b).get? other = r.get? other := by
  rw [get?, update, get?]
  generalize r.books = books
  induction books with
  | nil => rfl
  | cons e rest ih =>
      obtain ⟨name, old⟩ := e
      by_cases hname : name = typeName
      · have hother : (other == name) = false := by simpa [hname] using hne
        rw [List.map_cons, if_pos hname, List.lookup_cons, List.lookup_cons, hother]
        exact ih
      · rw [List.map_cons, if_neg hname, List.lookup_cons, List.lookup_cons, ih]

/-- The book of a model is found, or it is built and kept, or its declarations make no sense and
nothing is kept. -/
lemma getOrBuild_cases (r : Registry) (m : Model) :
    (∃ b, r.get? m.typeName = some b ∧ r.getOrBuild m = (.ok b, r)) ∨
      (∃ b, r.get? m.typeName = none ∧ m.rules.compile m.typeName = .ok b ∧
        r.getOrBuild m = (.ok b, ⟨r.books ++ [(m.typeName, b)]⟩)) ∨
      ∃ e, r.get? m.typeName = none ∧ m.rules.compile m.typeName = .error e ∧
        r.getOrBuild m = (.error e, r) := by
  rw [getOrBuild]
  cases hget : r.get? m.typeName with
  | some b => exact .inl ⟨b, rfl, rfl⟩
  | none =>
      cases hcompile : m.rules.compile m.typeName with
      | ok b => exact .inr (.inl ⟨b, rfl, rfl, rfl⟩)
      | error e => exact .inr (.inr ⟨e, rfl, rfl, rfl⟩)

/-- A book that is there is used. -/
lemma getOrBuild_of_get? (h : r.get? m.typeName = some b) : r.getOrBuild m = (.ok b, r) := by
  rw [getOrBuild, h]

/-- Where there is no book, the declarations are what counts. -/
lemma fst_getOrBuild_of_none (h : r.get? m.typeName = none) :
    (r.getOrBuild m).1 = m.rules.compile m.typeName := by
  rw [getOrBuild, h]
  cases m.rules.compile m.typeName <;> rfl

/-- A book that is used is there afterwards. -/
lemma get?_of_getOrBuild {r' : Registry} (h : r.getOrBuild m = (.ok b, r')) :
    r'.get? m.typeName = some b := by
  rcases r.getOrBuild_cases m with ⟨b', hget, heq⟩ | ⟨b', hget, _, heq⟩ | ⟨e, _, _, heq⟩
  · rw [heq] at h
    cases h
    exact hget
  · rw [heq] at h
    cases h
    rw [get?] at hget ⊢
    rw [List.lookup_append, hget]
    simp
  · rw [heq] at h
    cases h

/-- A book that was put in the place of the one in use is in use. -/
lemma getOrBuild_update (hbook : (r.getOrBuild m).1 = .ok b) (b' : RuleBook) :
    (((r.getOrBuild m).2.update m.typeName b').getOrBuild m).1 = .ok b' := by
  have hget : (r.getOrBuild m).2.get? m.typeName = some b :=
    get?_of_getOrBuild (Prod.ext hbook rfl)
  have hafter : ((r.getOrBuild m).2.update m.typeName b').get? m.typeName = some b' :=
    get?_update_self (by rw [hget]; rfl) b'
  rw [getOrBuild_of_get? hafter]

/-- Declarations that make no sense leave nothing behind. -/
lemma eq_of_getOrBuild_error {r' : Registry} {e : Error} (h : r.getOrBuild m = (.error e, r')) :
    r' = r := by
  rcases r.getOrBuild_cases m with ⟨b', _, heq⟩ | ⟨b', _, _, heq⟩ | ⟨e', _, _, heq⟩ <;>
    rw [heq] at h <;> cases h
  rfl

/-- A book that is there stays, whichever is asked for. -/
lemma get?_getOrBuild_of_some (h : r.get? typeName = some b) (m : Model) :
    (r.getOrBuild m).2.get? typeName = some b := by
  rcases r.getOrBuild_cases m with ⟨_, _, heq⟩ | ⟨_, _, _, heq⟩ | ⟨_, _, _, heq⟩
  · rw [heq]
    exact h
  · rw [heq]
    rw [get?] at h ⊢
    rw [List.lookup_append, h]
    rfl
  · rw [heq]
    exact h

/-- To ask for the book of a model leaves those of the other types. -/
lemma get?_getOrBuild_of_ne (hne : typeName ≠ m.typeName) :
    (r.getOrBuild m).2.get? typeName = r.get? typeName := by
  have hbeq : (typeName == m.typeName) = false := by simpa using hne
  rcases r.getOrBuild_cases m with ⟨_, _, heq⟩ | ⟨_, _, _, heq⟩ | ⟨_, _, _, heq⟩
  · rw [heq]
  · rw [heq, get?, get?, List.lookup_append, List.lookup_cons, hbeq]
    simp
  · rw [heq]

/-- The book that is asked for is the one that is there, or the one that the declarations compile
to. -/
lemma toOption_getOrBuild (r : Registry) (m : Model) :
    (r.getOrBuild m).1.toOption
      = (r.get? m.typeName).or (m.rules.compile m.typeName).toOption := by
  rcases r.getOrBuild_cases m with
    ⟨b, hget, heq⟩ | ⟨b, hget, hcompile, heq⟩ | ⟨e, hget, hcompile, heq⟩
  · rw [heq, hget]
    rfl
  · rw [heq, hget, hcompile]
    rfl
  · rw [heq, hget, hcompile]
    rfl

/-- The book that is asked for is there from then on. -/
lemma get?_getOrBuild (r : Registry) (m : Model) :
    (r.getOrBuild m).2.get? m.typeName = (r.getOrBuild m).1.toOption := by
  cases hbook : r.getOrBuild m with
  | mk o r' =>
      cases o with
      | ok b => exact get?_of_getOrBuild hbook
      | error e =>
          have hnone := toOption_getOrBuild r m
          rw [hbook] at hnone
          rw [eq_of_getOrBuild_error hbook]
          exact (Option.or_eq_none_iff.mp hnone.symm).1

/-! ### The types that were built -/

/-- The types whose books were built, oldest first. -/
def names (r : Registry) : List String :=
  r.books.map Prod.fst

lemma mem_names_iff : typeName ∈ r.names ↔ (r.get? typeName).isSome = true := by
  rw [names, get?, List.lookup_isSome_iff, List.mem_map]
  refine exists_congr fun e => and_congr_right fun _ => ?_
  rw [beq_iff_eq, eq_comm]

/-- No book comes or goes when one takes the place of another. -/
lemma names_update (r : Registry) (typeName : String) (b : RuleBook) :
    (r.update typeName b).names = r.names := by
  rw [names, update, List.map_map, names]
  refine List.map_congr_left fun e _ => ?_
  rw [Function.comp]
  split <;> rfl

/-- What a model is used with is listed if its declarations compile. -/
lemma names_getOrBuild_of_ok {b : RuleBook} (h : m.rules.compile m.typeName = .ok b) :
    (r.getOrBuild m).2.names = enlist r.names m.typeName := by
  rcases r.getOrBuild_cases m with ⟨c, hget, heq⟩ | ⟨c, hget, _, heq⟩ | ⟨e, _, hcompile, _⟩
  · have hmem : m.typeName ∈ r.names := by
      rw [mem_names_iff, hget]
      rfl
    rw [heq, enlist_of_mem hmem]
  · have hmem : m.typeName ∉ r.names := by
      rw [mem_names_iff, hget]
      simp
    rw [heq, enlist_of_not_mem hmem, names, List.map_append]
    rfl
  · rw [h] at hcompile
    cases hcompile

/-- Declarations that do not compile leave the registry as it is. -/
lemma snd_getOrBuild_of_error {e : Error} (h : m.rules.compile m.typeName = .error e) :
    (r.getOrBuild m).2 = r := by
  rcases r.getOrBuild_cases m with ⟨c, _, heq⟩ | ⟨c, _, hcompile, _⟩ | ⟨e', _, _, heq⟩
  · rw [heq]
  · rw [h] at hcompile
    cases hcompile
  · rw [heq]

end Registry

end FieldRules
