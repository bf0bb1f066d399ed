/-
What a type declares, call by call.

* `Declaration`, `RuleTable.declare`: the calls that declare fields and handlers,
  and the table that a sequence of them makes;
* `Declaration.fields`, `Declaration.handlersOf`: the fields with their rules as
  the calls give them, and the handlers that they give one name;
* `RuleTable.firstField?`, `RuleTable.rulesOf`: the field that a name is first
  given, and all the rules that it is given;
* `RuleTable.merge`, `fields_declare`: the fields of the table, and
  `names_merge`, `firstField?_merge`, `rulesOf_merge`, `length_rules_merge`: they
  tell of each name what the calls tell of it;
* `rules_of_mem_declare`, `find?_handlers_declare`: a field of the table and its
  rules, and the handlers of the table.
-/
import FieldRules.Proofs.RuleBook.Compiled

namespace FieldRules

/-- A call that adds to the declarations of a type. -/
inductive Declaration where
  /-- Declares rules for a field. -/
  | field (f : Field) (rules : List RuleDecl)
  /-- Declares a handler. -/
  | handler (name : String) (h : Handler)

namespace Declaration

/-- The table with one more declaration. -/
def apply (t : RuleTable) : Declaration → RuleTable
  | field f rules => t.field f rules
  | handler name h => t.handler name h

/-- The fields with their rules, one for each call that declares rules for a field. -/
def fields (calls : List Declaration) : List (Field × List RuleDecl) :=
  calls.filterMap fun
    | field f rules => some (f, rules)
    | handler _ _ => none

/-- The handlers that are declared under the name, one for each call. -/
def handlersOf (name : String) (calls : List Declaration) : List Handler :=
  calls.filterMap fun
    | field _ _ => none
    | handler n h => if n = name then some h else none

end Declaration

namespace RuleTable

/-- The table that calls make, one after the other. -/
def declare (calls : List Declaration) : RuleTable :=
  calls.foldl Declaration.apply .empty

lemma declare_append_singleton (calls : List Declaration) (c : Declaration) :
    declare (calls ++ [c]) = c.apply (declare calls) := by
  rw [declare, declare, List.foldl_append]
  rfl

/-- A table that calls make is declared. -/
lemma declared_declare (calls : List Declaration) : (declare calls).Declared := by
  induction calls using List.reverseRecOn with
  | nil => exact .empty
  | append_singleton calls c ih =>
      rw [declare_append_singleton]
      cases c with
      | field f rules => exact .field f rules ih
      | handler name h => exact .handler name h ih

/-! ### Fields -/

/-- The field that comes first under the name. -/
def firstField? (fs : List (Field × List RuleDecl)) (name : String) : Option Field :=
  (fs.find? fun e => e.1.name == name).map Prod.fst

/-- All rules that come under the name, in order. -/
def rulesOf (fs : List (Field × List RuleDecl)) (name : String) : List RuleDecl :=
  (fs.filter fun e => e.1.name == name).flatMap Prod.snd

lemma firstField?_cons (e : Field × List RuleDecl) (fs : List (Field × List RuleDecl))
    (name : String) :
    firstField? (e :: fs) name = if e.1.name = name then some e.1 else firstField? fs name := by
  rw [firstField?, List.find?_cons]
  by_cases h : e.1.name = name
  · rw [if_pos h, beq_iff_eq.mpr h]
    rfl
  · rw [if_neg h, beq_eq_false_iff_ne.mpr h]
    rfl

lemma firstField?_append (fs gs : List (Field × List RuleDecl)) (name : String) :
    firstField? (fs ++ gs) name = (firstField? fs name).or (firstField? gs name) := by
  rw [firstField?, List.find?_append, Option.map_or]
  rfl

lemma rulesOf_cons (e : Field × List RuleDecl) (fs : List (Field × List RuleDecl))
    (name : String) :
    rulesOf (e :: fs) name
      = if e.1.name = name then e.2 ++ rulesOf fs name else rulesOf fs name := by
  rw [rulesOf, List.filter_cons]
  by_cases h : e.1.name = name
  · rw [if_pos h, if_pos (beq_iff_eq.mpr h)]
    rfl
  · rw [if_neg h, if_neg (mt beq_iff_eq.mp h)]
    rfl

lemma rulesOf_append (fs gs : List (Field × List RuleDecl)) (name : String) :
    rulesOf (fs ++ gs) name = rulesOf fs name ++ rulesOf gs name := by
  rw [rulesOf, List.filter_append, List.flatMap_append]
  rfl

/-- A name that does not come has no rules. -/
lemma rulesOf_of_not_mem {fs : List (Field × List RuleDecl)} {name : String}
    (h : name ∉ fs.map fun e => e.1.name) : rulesOf fs name = [] := by
  have hnone : (fs.filter fun e => e.1.name == name) = [] := by
    rw [List.filter_eq_nil_iff]
    intro e he hname
    exact h (List.mem_map.mpr ⟨e, he, beq_iff_eq.mp hname⟩)
  rw [rulesOf, hnone]
  rfl

/-! ### One more field -/

section Insert

variable (f : Field) (rules : List RuleDecl) (fs : List (Field × List RuleDecl)) (name : String)

/-- A field that is there is read as before when rules are declared for it. -/
lemma firstField?_insertField :
    firstField? (insertField f rules fs) name = firstField? (fs ++ [(f, rules)]) name := by
  rw [firstField?_append]
  induction fs with
  | nil => rfl
  | cons e rest ih =>
      obtain ⟨g, existing⟩ := e
      by_cases hg : g.name = f.name
      · rw [insertField, if_pos hg, firstField?_cons, firstField?_cons]
        by_cases hname : g.name = name
        · rw [if_pos hname, Option.some_or]
        · rw [if_neg hname, firstField?_cons, if_neg (hg ▸ hname)]
          exact Option.or_none.symm
      · rw [insertField, if_neg hg, firstField?_cons, firstField?_cons]
        by_cases hname : g.name = name
        · rw [if_pos hname, if_pos hname, Option.some_or]
        · rw [if_neg hname, if_neg hname, ih]

/-- Rules that are declared for a field come behind those that its name has. -/
lemma rulesOf_insertField (hnd : (fs.map fun e => e.1.name).Nodup) :
    rulesOf (insertField f rules fs) name = rulesOf (fs ++ [(f, rules)]) name := by
  rw [rulesOf_append]
  induction fs with
  | nil => rfl
  | cons e rest ih =>
      obtain ⟨g, existing⟩ := e
      rw [List.map_cons, List.nodup_cons] at hnd
      by_cases hg : g.name = f.name
      · rw [insertField, if_pos hg, rulesOf_cons, rulesOf_cons, rulesOf_cons]
        by_cases hname : g.name = name
        · -- no other field has the name
          rw [if_pos hname, if_pos hname, if_pos (hg ▸ hname), rulesOf_of_not_mem (hname ▸ hnd.1)]
          simp [rulesOf]
        · rw [if_neg hname, if_neg hname, if_neg (hg ▸ hname)]
          simp [rulesOf]
      · rw [insertField, if_neg hg, rulesOf_cons, rulesOf_cons, ih hnd.2]
        by_cases hname : g.name = name
        · rw [if_pos hname, if_pos hname, List.append_assoc]
        · rw [if_neg hname, if_neg hname]

/-- No rule gets lost when rules are declared for a field. -/
lemma length_rules_insertField :
    ((insertField f rules fs).flatMap Prod.snd).length
      = (fs.flatMap Prod.snd).length + rules.length := by
  induction fs with
  | nil => simp [insertField]
  | cons e rest ih =>
      obtain ⟨g, existing⟩ := e
      by_cases hg : g.name = f.name
      · rw [insertField, if_pos hg]
        simp only [List.flatMap_cons, List.length_append]
        omega
      · rw [insertField, if_neg hg]
        simp only [List.flatMap_cons, List.length_append, ih]
        omega

end Insert

/-! ### All fields -/

/-- The fields of a table to which these were added, one after the other. -/
def merge (fs : List (Field × List RuleDecl)) : List (Field × List RuleDecl) :=
  fs.foldl (fun merged e => insertField e.1 e.2 merged) []

lemma merge_append_singleton (fs : List (Field × List RuleDecl)) (e : Field × List RuleDecl) :
    merge (fs ++ [e]) = insertField e.1 e.2 (merge fs) := by
  rw [merge, merge, List.foldl_append]
  rfl

/-- Fields that are added to a table have their names in the order in which these first come. -/
lemma names_merge (fs : List (Field × List RuleDecl)) :
    ((merge fs).map fun e => e.1.name) = (fs.map fun e => e.1.name).eraseDups := by
  induction fs using List.reverseRecOn with
  | nil => rfl
  | append_singleton fs e ih =>
      rw [merge_append_singleton, names_insertField, ih, List.map_append, List.map_singleton,
        eraseDups_append_singleton]

/-- A field is read as the first one of its name. -/
lemma firstField?_merge (fs : List (Field × List RuleDecl)) (name : String) :
    firstField? (merge fs) name = firstField? fs name := by
  induction fs using List.reverseRecOn with
  | nil => rfl
  | append_singleton fs e ih =>
      calc firstField? (merge (fs ++ [e])) name
          = firstField? (insertField e.1 e.2 (merge fs)) name := by rw [merge_append_singleton]
        _ = firstField? (merge fs ++ [e]) name := firstField?_insertField e.1 e.2 _ name
        _ = (firstField? fs name).or (firstField? [e] name) := by rw [firstField?_append, ih]
        _ = firstField? (fs ++ [e]) name := (firstField?_append fs [e] name).symm

/-- A field of a table to which fields were added has the rules of all of its name. -/
lemma rulesOf_merge (fs : List (Field × List RuleDecl)) (name : String) :
    rulesOf (merge fs) name = rulesOf fs name := by
  induction fs using List.reverseRecOn with
  | nil => rfl
  | append_singleton fs e ih =>
      have hnd : ((merge fs).map fun e => e.1.name).Nodup := by
        rw [names_merge]
        exact nodup_eraseDups _
      calc rulesOf (merge (fs ++ [e])) name
          = rulesOf (insertField e.1 e.2 (merge fs)) name := by rw [merge_append_singleton]
        _ = rulesOf (merge fs ++ [e]) name := rulesOf_insertField e.1 e.2 _ name hnd
        _ = rulesOf fs name ++ rulesOf [e] name := by rw [rulesOf_append, ih]
        _ = rulesOf (fs ++ [e]) name := (rulesOf_append fs [e] name).symm

/-- Fields that are added to a table bring all their rules. -/
lemma length_rules_merge (fs : List (Field × List RuleDecl)) :
    ((merge fs).flatMap Prod.snd).length = (fs.flatMap Prod.snd).length := by
  induction fs using List.reverseRecOn with
  | nil => rfl
  | append_singleton fs e ih =>
      rw [merge_append_singleton, length_rules_insertField, ih, List.flatMap_append,
        List.length_append]
      simp

/-- What stands under a name that comes once is what comes first and all that comes. -/
lemma of_mem_nodup {fs : List (Field × List RuleDecl)} (hnd : (fs.map fun e => e.1.name).Nodup)
    {e : Field × List RuleDecl} (he : e ∈ fs) :
    firstField? fs e.1.name = some e.1 ∧ rulesOf fs e.1.name = e.2 := by
  induction fs with
  | nil => cases he
  | cons g rest ih =>
      rw [List.map_cons, List.nodup_cons] at hnd
      rw [firstField?_cons, rulesOf_cons]
      rcases List.mem_cons.mp he with rfl | hmem
      · rw [if_pos rfl, if_pos rfl, rulesOf_of_not_mem hnd.1, List.append_nil]
        exact ⟨rfl, rfl⟩
      · have hne : g.1.name ≠ e.1.name := fun heq =>
          hnd.1 (heq ▸ List.mem_map_of_mem (f := fun e => e.1.name) hmem)
        rw [if_neg hne, if_neg hne]
        exact ih hnd.2 hmem

/-! ### The table -/

/-- The fields of the table are those of the calls that declare rules, whatever handlers are
declared before, between and after them. -/
lemma fields_declare (calls : List Declaration) :
    (declare calls).fields = merge (Declaration.fields calls) := by
  induction calls using List.reverseRecOn with
  | nil => rfl
  | append_singleton calls c ih =>
      rw [declare_append_singleton, Declaration.fields, List.filterMap_append]
      cases c with
      | field f rules =>
          change insertField f rules (declare calls).fields
            = merge (Declaration.fields calls ++ [(f, rules)])
          rw [merge_append_singleton, ih]
      | handler name h =>
          change (declare calls).fields = merge (Declaration.fields calls ++ [])
          rw [List.append_nil, ih]

/-- A field of the table is the one that its name is first given, with all the rules that it is
given. -/
lemma rules_of_mem_declare {calls : List Declaration} {f : Field × List RuleDecl}
    (hf : f ∈ (declare calls).fields) :
    firstField? (Declaration.fields calls) f.1.name = some f.1 ∧
      rulesOf (Declaration.fields calls) f.1.name = f.2 := by
  have hnd : (declare calls).names.Nodup := (declared_declare calls).nodup_names
  rw [names, fields_declare] at hnd
  rw [fields_declare] at hf
  obtain ⟨hfirst, hall⟩ := of_mem_nodup hnd hf
  rw [firstField?_merge] at hfirst
  rw [rulesOf_merge] at hall
  exact ⟨hfirst, hall⟩

/-- Under a name stands the last handler that was declared under it. -/
lemma find?_handlers_declare (calls : List Declaration) (name : String) :
    (declare calls).handlers.find? name = (Declaration.handlersOf name calls).getLast? := by
  induction calls using List.reverseRecOn with
  | nil => rfl
  | append_singleton calls c ih =>
      rw [declare_append_singleton, Declaration.handlersOf, List.filterMap_append]
      cases c with
      | field f rules =>
          change (declare calls).handlers.find? name
            = (Declaration.handlersOf name calls ++ []).getLast?
          rw [List.append_nil, ih]
      | handler other h =>
          change ((declare calls).handlers.insert other h).find? name = _
          by_cases hname : other = name
          · subst hname
            simp [Handlers.find?_insert_self]
          · rw [Handlers.find?_insert_of_ne _ h (Ne.symm hname), ih]
            simp [hname, Declaration.handlersOf]

end RuleTable

end FieldRules
