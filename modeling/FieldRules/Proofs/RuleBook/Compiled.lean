/-
Books that come from declarations.

* `RuleTable.Declared`: a table made by declaring fields and handlers;
* `RuleBook.Compiled`: a book compiled from such a table, with rules that may
  have been bound since;
* `names_of_compile`, `exists_field_of_compile`, `ruleCount_of_compile`: what of a
  table is in the book that it is compiled to;
* `Declared.nodup_names`, `Compiled.nodup_names`: no field has two entries;
* `entry?_eq_some_iff`, `replaceEntry_eq_map`: so an entry is known by its name.
-/
import FieldRules.RuleTable
import FieldRules.Proofs.Enlisting
import FieldRules.Proofs.Rule.Binding

namespace FieldRules

namespace RuleTable

/-- A table made by declaring fields and handlers, in any order. -/
inductive Declared : RuleTable → Prop
  | empty : Declared .empty
  | field {t : RuleTable} (f : Field) (rules : List RuleDecl) (h : Declared t) :
      Declared (t.field f rules)
  | handler {t : RuleTable} (name : String) (handler : Handler) (h : Declared t) :
      Declared (t.handler name handler)

/-- The names of the declared fields. -/
def names (t : RuleTable) : List String :=
  t.fields.map fun e => e.1.name

lemma names_insertField (f : Field) (rules : List RuleDecl) (fs : List (Field × List RuleDecl)) :
    (insertField f rules fs).map (fun e => e.1.name)
      = enlist (fs.map fun e => e.1.name) f.name := by
  induction fs with
  | nil => rfl
  | cons e rest ih =>
      obtain ⟨g, existing⟩ := e
      by_cases h : g.name = f.name
      · rw [insertField, if_pos h, List.map_cons, List.map_cons, h, enlist_cons_self]
      · rw [insertField, if_neg h, List.map_cons, List.map_cons, enlist_cons_of_ne h, ih]

/-- No field is declared in two places. -/
lemma Declared.nodup_names {t : RuleTable} (h : t.Declared) : t.names.Nodup := by
  induction h with
  | empty => exact List.nodup_nil
  | @field t f rules _ ih =>
      rw [names, RuleTable.field, names_insertField]
      exact nodup_enlist ih f.name
  | handler name handler _ ih => exact ih

/-! ### From a table to a book -/

variable {t : RuleTable} {typeName : String} {b : RuleBook}

lemma field_of_compileEntry {hs : Handlers} {e : Field × List RuleDecl} {entry : RuleBook.Entry}
    (h : compileEntry typeName hs e = .ok entry) : entry.field = e.1 := by
  obtain ⟨rules, _, rfl⟩ := map_eq_ok_iff.mp h
  rfl

lemma typeName_of_compile (h : t.compile typeName = .ok b) : b.typeName = typeName := by
  obtain ⟨entries, _, rfl⟩ := map_eq_ok_iff.mp h
  rfl

lemma handlers_of_compile (h : t.compile typeName = .ok b) : b.handlers = t.handlers := by
  obtain ⟨entries, _, rfl⟩ := map_eq_ok_iff.mp h
  rfl

/-- The fields of a book are those of the table that it was compiled from. -/
lemma names_of_compile (h : t.compile typeName = .ok b) : b.names = t.names := by
  obtain ⟨entries, hentries, rfl⟩ := map_eq_ok_iff.mp h
  have heq : List.Forall₂ (fun (e : Field × List RuleDecl) entry =>
      e.1.name = RuleBook.Entry.name entry) t.fields entries :=
    (mapM_eq_ok_iff.mp hentries).imp fun e entry he => by
      rw [RuleBook.Entry.name, field_of_compileEntry he]
  exact (map_eq_map_of_forall₂ heq).symm

/-- Each entry of a book is that of a declared field, with all its rules. -/
lemma exists_field_of_compile (h : t.compile typeName = .ok b) {e : RuleBook.Entry}
    (he : e ∈ b.entries) :
    ∃ f ∈ t.fields, e.field = f.1 ∧ f.2.mapM (b.compileRule e.name) = .ok e.rules := by
  obtain ⟨entries, hentries, rfl⟩ := map_eq_ok_iff.mp h
  obtain ⟨f, hf, hcompile⟩ := exists_left_of_forall₂ (mapM_eq_ok_iff.mp hentries) he
  obtain ⟨rules, hrules, rfl⟩ := map_eq_ok_iff.mp hcompile
  exact ⟨f, hf, rfl, hrules⟩

/-- A book has as many rules as its table. -/
lemma ruleCount_of_compile (h : t.compile typeName = .ok b) :
    b.ruleCount = (t.fields.flatMap Prod.snd).length := by
  obtain ⟨entries, hentries, rfl⟩ := map_eq_ok_iff.mp h
  rw [RuleBook.ruleCount]
  have hall := mapM_eq_ok_iff.mp hentries
  generalize t.fields = fields at hall
  clear h hentries
  induction hall with
  | nil => rfl
  | cons hf _ ih =>
      obtain ⟨rules, hrules, rfl⟩ := map_eq_ok_iff.mp hf
      rw [List.flatMap_cons, List.flatMap_cons, List.length_append, List.length_append, ih,
        (mapM_eq_ok_iff.mp hrules).length_eq]

/-- Every field of a book in use was declared. -/
lemma exists_field_of_mem {b₀ : RuleBook} (h : t.compile typeName = .ok b₀) (hb : b₀.Binds b)
    {e : RuleBook.Entry} (he : e ∈ b.entries) : ∃ f ∈ t.fields, e.field = f.1 := by
  obtain ⟨e₀, he₀, hbinds⟩ := exists_left_of_forall₂ hb.entries he
  obtain ⟨f, hf, hfield, _⟩ := exists_field_of_compile h he₀
  exact ⟨f, hf, hbinds.field.trans hfield⟩

end RuleTable

namespace RuleBook

/-- A book in use: it was compiled from declarations, and some of its rules may have been bound
since. -/
def Compiled (b : RuleBook) : Prop :=
  ∃ (t : RuleTable) (typeName : String) (b₀ : RuleBook),
    t.Declared ∧ t.compile typeName = .ok b₀ ∧ b₀.Binds b

/-- A compiled book stays one when its rules are bound. -/
lemma Compiled.binds {b b' : RuleBook} (h : b.Compiled) (hb : b.Binds b') : b'.Compiled := by
  obtain ⟨t, typeName, b₀, ht, hcompile, hbinds⟩ := h
  exact ⟨t, typeName, b₀, ht, hcompile, hbinds.trans hb⟩

/-- No field of a compiled book has two entries. -/
lemma Compiled.nodup_names {b : RuleBook} (h : b.Compiled) : b.names.Nodup := by
  obtain ⟨t, typeName, b₀, ht, hcompile, hbinds⟩ := h
  rw [hbinds.names_eq, RuleTable.names_of_compile hcompile]
  exact ht.nodup_names

/-! ### Entries and their names -/

lemma entry?_eq_none_iff {b : RuleBook} {name : String} :
    b.entry? name = none ↔ name ∉ b.names := by
  unfold entry? names
  rw [List.find?_eq_none, List.mem_map]
  constructor
  · rintro h ⟨e, he, rfl⟩
    exact h e he (by simp)
  · intro h e he hname
    exact h ⟨e, he, by simpa using hname⟩

lemma isSome_entry?_iff {b : RuleBook} {name : String} :
    (b.entry? name).isSome = true ↔ name ∈ b.names := by
  rw [← not_iff_not, Option.not_isSome_iff_eq_none, entry?_eq_none_iff]

lemma mem_names_of_entry? {b : RuleBook} {name : String} {e : Entry}
    (h : b.entry? name = some e) : name ∈ b.names :=
  isSome_entry?_iff.mp (Option.isSome_of_eq_some h)

/-- Under a name stands the one entry that has it. -/
lemma entry?_eq_some_iff {b : RuleBook} (hnd : b.names.Nodup) {name : String} {e : Entry} :
    b.entry? name = some e ↔ e ∈ b.entries ∧ e.name = name := by
  constructor
  · intro h
    have hname : (e.name == name) = true := by
      simpa using List.find?_some h
    exact ⟨List.mem_of_find?_eq_some h, beq_iff_eq.mp hname⟩
  · rintro ⟨he, rfl⟩
    cases hfound : b.entry? e.name with
    | none => exact absurd (List.mem_map_of_mem he) (entry?_eq_none_iff.mp hfound)
    | some e' =>
        have hname : (e'.name == e.name) = true := by
          simpa using List.find?_some hfound
        have hmem : e' ∈ b.entries := List.mem_of_find?_eq_some hfound
        rw [List.inj_on_of_nodup_map hnd hmem he (beq_iff_eq.mp hname)]

/-- If every field has a name, so has that of an entry. -/
lemma isEmpty_name {b : RuleBook} (hne : "" ∉ b.names) {e : Entry} (he : e ∈ b.entries) :
    e.name.isEmpty = false := by
  rw [Bool.eq_false_iff, ne_eq, String.isEmpty_iff]
  exact fun hempty => hne (hempty ▸ List.mem_map_of_mem he)

/-- An entry takes the place of the one that has its name. -/
lemma replaceEntry_eq_map {e : Entry} {entries : List Entry}
    (hnd : (entries.map Entry.name).Nodup) :
    replaceEntry e entries = entries.map fun old => if old.name = e.name then e else old := by
  induction entries with
  | nil => rfl
  | cons old rest ih =>
      rw [List.map_cons, List.nodup_cons] at hnd
      rw [replaceEntry, List.map_cons]
      by_cases h : old.name = e.name
      · rw [if_pos h, if_pos h]
        -- no other entry has the name
        have hrest : rest.map (fun old => if old.name = e.name then e else old) = rest.map id := by
          refine List.map_congr_left fun other hother => if_neg fun heq => hnd.1 ?_
          rw [h, ← heq]
          exact List.mem_map_of_mem hother
        rw [hrest, List.map_id]
      · rw [if_neg h, if_neg h, ih hnd.2]

end RuleBook

end FieldRules
