/-
What use may make of rules: numeric ones may be bound to a width.

* `Check.Binds`: a check stays as it is, or it is numeric, had no width and has
  one now;
* `Rule.Binds`, `RuleBook.Entry.Binds`, `RuleBook.Binds`: all else about the
  rules of a book stays;
* `Rule.binds_bind`: applying a rule does no more than that.
-/
import FieldRules.RuleBook
import FieldRules.Proofs.Outcomes

namespace FieldRules

/-- What use may make of a check: it stays as it is, or it is numeric and gets the width that it did
not have yet. -/
inductive Check.Binds : Check → Check → Prop
  | refl (c : Check) : Binds c c
  | width (c : Comparison) (w : Width) : Binds (.numeric ⟨c, none⟩) (.numeric ⟨c, some w⟩)

/-- What use may make of a rule: its check may be bound to a width. -/
structure Rule.Binds (r r' : Rule) : Prop where
  /-- The check. -/
  check : r.check.Binds r'.check
  /-- All else. -/
  rest : r' = { r with check := r'.check }

/-- What use may make of the rules of a field. -/
structure RuleBook.Entry.Binds (e e' : RuleBook.Entry) : Prop where
  /-- The field stays. -/
  field : e'.field = e.field
  /-- Its rules may be bound. -/
  rules : List.Forall₂ Rule.Binds e.rules e'.rules

/-- What use may make of a book. -/
structure RuleBook.Binds (b b' : RuleBook) : Prop where
  /-- The type stays. -/
  typeName : b'.typeName = b.typeName
  /-- The handlers stay. -/
  handlers : b'.handlers = b.handlers
  /-- The rules of each field may be bound. -/
  entries : List.Forall₂ RuleBook.Entry.Binds b.entries b'.entries

lemma Check.Binds.trans {c d e : Check} (h : c.Binds d) (h' : d.Binds e) : c.Binds e := by
  cases h with
  | refl => exact h'
  | width comparison w =>
      cases h' with
      | refl => exact .width comparison w

lemma Rule.Binds.refl (r : Rule) : r.Binds r := ⟨.refl _, rfl⟩

lemma Rule.Binds.trans {r s t : Rule} (h : r.Binds s) (h' : s.Binds t) : r.Binds t := by
  refine ⟨h.check.trans h'.check, ?_⟩
  rw [h'.rest, h.rest]

lemma RuleBook.Entry.Binds.refl (e : RuleBook.Entry) : e.Binds e :=
  ⟨rfl, List.forall₂_same.mpr fun r _ => .refl r⟩

lemma RuleBook.Entry.Binds.trans {e f g : RuleBook.Entry} (h : e.Binds f) (h' : f.Binds g) :
    e.Binds g :=
  ⟨h'.field.trans h.field, forall₂_trans (R := Rule.Binds) Rule.Binds.trans h.rules h'.rules⟩

lemma RuleBook.Binds.refl (b : RuleBook) : b.Binds b :=
  ⟨rfl, rfl, List.forall₂_same.mpr fun e _ => .refl e⟩

lemma RuleBook.Binds.trans {b c d : RuleBook} (h : b.Binds c) (h' : c.Binds d) : b.Binds d :=
  ⟨h'.typeName.trans h.typeName, h'.handlers.trans h.handlers,
    forall₂_trans (R := Entry.Binds) Entry.Binds.trans h.entries h'.entries⟩

/-- The fields of a book keep their names and their order. -/
lemma RuleBook.Binds.names_eq {b b' : RuleBook} (h : b.Binds b') : b'.names = b.names := by
  have hmap : List.Forall₂ (fun e e' : Entry => e.name = e'.name) b.entries b'.entries :=
    h.entries.imp fun e e' he => by rw [Entry.name, Entry.name, he.field]
  exact (map_eq_map_of_forall₂ hmap).symm

/-- A book keeps all its rules. -/
lemma RuleBook.Binds.ruleCount_eq {b b' : RuleBook} (h : b.Binds b') :
    b'.ruleCount = b.ruleCount := by
  have hentries := h.entries
  rw [ruleCount, ruleCount]
  generalize b.entries = entries, b'.entries = entries' at hentries
  induction hentries with
  | nil => rfl
  | cons he _ ih =>
      rw [List.flatMap_cons, List.flatMap_cons, List.length_append, List.length_append, ih,
        he.rules.length_eq]

/-! ### Applying rules -/

/-- A check that sees a value is bound at most. -/
lemma Check.binds_bind (c : Check) (v : Value) : c.Binds (c.bind v) := by
  cases c with
  | numeric n =>
      obtain ⟨comparison, width⟩ := n
      cases width with
      | some w => exact .refl _
      | none =>
          cases hn : v.number? with
          | none =>
              simp only [bind, NumericCheck.bind, hn]
              exact .refl _
          | some n =>
              simp only [bind, NumericCheck.bind, hn]
              exact .width comparison n.width
  | present => exact .refl _
  | longer _ => exact .refl _
  | shorter _ => exact .refl _
  | custom _ => exact .refl _

/-- A rule that is applied is bound at most. -/
lemma Rule.binds_bind (r : Rule) (field : Field) (owner : Entity) :
    r.Binds (r.bind field owner) := by
  rw [bind]
  split
  · exact ⟨r.check.binds_bind _, rfl⟩
  · exact .refl r

namespace RuleBook

/-- Rules that are applied up to the first error are bound at most. -/
lemma Entry.binds_runRules (field : Field) (owner : Instance) (localizer : Option Localizer)
    (rules : List Rule) (found : List Message) :
    List.Forall₂ Rule.Binds rules (runRules field owner localizer rules found).2 := by
  induction rules generalizing found with
  | nil => exact .nil
  | cons r rest ih =>
      rw [runRules, Rule.run]
      cases r.validate field owner localizer with
      | error e => exact .cons (r.binds_bind field _) (List.forall₂_same.mpr fun s _ => .refl s)
      | ok m => exact .cons (r.binds_bind field _) (ih _)

/-- The rules of a field that are applied are bound at most. -/
lemma Entry.binds_evaluate (e : Entry) (owner : Instance) (localizer : Option Localizer) :
    e.Binds (e.evaluate owner localizer).2 :=
  ⟨rfl, Entry.binds_runRules e.field owner localizer e.rules []⟩

lemma binds_evaluateEntries (owner : Instance) (localizer : Option Localizer)
    (entries : List Entry) :
    List.Forall₂ Entry.Binds entries (evaluateEntries owner localizer entries).2 := by
  induction entries with
  | nil => exact .nil
  | cons e rest ih =>
      have he := e.binds_evaluate owner localizer
      rw [evaluateEntries]
      split
      · rename_i heq
        rw [heq] at he
        exact .cons he (List.forall₂_same.mpr fun f _ => .refl f)
      · rename_i heq
        rw [heq] at he
        exact .cons he ih

/-- Applying all rules binds at most. -/
lemma binds_evaluate (b : RuleBook) (owner : Instance) (localizer : Option Localizer) :
    b.Binds (b.evaluate owner localizer).2 :=
  ⟨rfl, rfl, binds_evaluateEntries owner localizer b.entries⟩

/-- In place of the entry that is found under its name stands what it was bound to. -/
lemma binds_replaceEntry {e e' : Entry} (he : e.Binds e') {entries : List Entry} {name : String}
    (h : entries.find? (·.name == name) = some e) :
    List.Forall₂ Entry.Binds entries (replaceEntry e' entries) := by
  have hname : e'.name = name := by
    have hfound : (e.name == name) = true := by
      simpa using List.find?_some h
    rw [Entry.name, he.field]
    exact beq_iff_eq.mp hfound
  induction entries with
  | nil => exact .nil
  | cons old rest ih =>
      rw [replaceEntry, hname]
      by_cases hold : old.name = name
      · rw [List.find?_cons_of_pos (by simpa using hold)] at h
        rw [if_pos hold, Option.some.inj h]
        exact .cons he (List.forall₂_same.mpr fun f _ => .refl f)
      · rw [List.find?_cons_of_neg (by simpa using hold)] at h
        rw [if_neg hold]
        exact .cons (.refl old) (ih h)

/-- Applying the rules of one field binds at most. -/
lemma binds_evaluateEntry {b : RuleBook} {e : Entry} {name : String} (h : b.entry? name = some e)
    (owner : Instance) (localizer : Option Localizer) :
    b.Binds (b.evaluateEntry e owner localizer).2 :=
  ⟨rfl, rfl, binds_replaceEntry (e.binds_evaluate owner localizer) h⟩

end RuleBook

end FieldRules
