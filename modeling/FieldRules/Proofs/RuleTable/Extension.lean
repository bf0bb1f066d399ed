/-
One more rule for a field that is declared.

* `RuleBook.Entry.withRule`, `RuleBook.withRule`: an entry and a book with one
  more rule, behind those that the field has;
* `entry?_withRule`: the entry that is found in such a book;
* `RuleTable.compileEntry_append`, `mapM_insertField`: if all rules compile but
  for the last one of a field, it is up to that one;
* `RuleTable.compile_field_of_mem`: the book of a table with one more rule is the
  book of the table with one more rule;
* `RuleBook.Binds.compileRule_eq`: how rules compile does not change with use.
-/
import FieldRules.Proofs.RuleBook.Compiled

namespace FieldRules

namespace RuleBook

/-- The entry with one more rule. -/
def Entry.withRule (e : Entry) (r : Rule) : Entry :=
  { e with rules := e.rules ++ [r] }

/-- The entries with one more rule in the first of those under the name. -/
def appendRule (name : String) (r : Rule) : List Entry → List Entry
  | [] => []
  | e :: rest => if e.name = name then e.withRule r :: rest else e :: appendRule name r rest

/-- The book with one more rule for a field. -/
def withRule (b : RuleBook) (name : String) (r : Rule) : RuleBook :=
  { b with entries := appendRule name r b.entries }

variable {b : RuleBook} {name : String}

/-- In a book with one more rule the entry of the field has the rule. -/
lemma entry?_withRule {e : Entry} (h : b.entry? name = some e) (r : Rule) :
    entry? (b.withRule name r) name = some (e.withRule r) := by
  unfold entry? at h ⊢
  rw [withRule]
  generalize b.entries = entries at h
  induction entries with
  | nil => cases h
  | cons old rest ih =>
      rw [List.find?_cons] at h
      rw [appendRule]
      by_cases hname : old.name = name
      · rw [beq_iff_eq.mpr hname] at h
        obtain rfl := Option.some.inj h
        rw [if_pos hname, List.find?_cons]
        have hhit : ((old.withRule r).name == name) = true := beq_iff_eq.mpr hname
        rw [hhit]
      · rw [beq_eq_false_iff_ne.mpr hname] at h
        rw [if_neg hname, List.find?_cons, beq_eq_false_iff_ne.mpr hname]
        exact ih h

/-- One more rule for a field adds no field to the book. -/
lemma names_withRule (b : RuleBook) (name : String) (r : Rule) :
    (b.withRule name r).names = b.names := by
  rw [names, names, withRule]
  induction b.entries with
  | nil => rfl
  | cons old rest ih =>
      rw [appendRule]
      split
      · rfl
      · rw [List.map_cons, List.map_cons, ih]

/-- Rules are found to compile, or not to, whatever was bound in the book. -/
lemma Binds.compileRule_eq {b₀ : RuleBook} (h : b₀.Binds b) (field : String) (d : RuleDecl) :
    b.compileRule field d = b₀.compileRule field d := by
  rw [compileRule, compileRule, h.typeName, h.handlers]

end RuleBook

namespace RuleTable

variable {t : RuleTable} {typeName : String} {hs : Handlers}

/-- If the rules of a field compile, then with one more it is up to that one. -/
lemma compileEntry_append {g : Field} {rules : List RuleDecl} {e : RuleBook.Entry}
    (h : compileEntry typeName hs (g, rules) = .ok e) (d : RuleDecl) :
    compileEntry typeName hs (g, rules ++ [d])
      = (d.compile typeName g.name hs).map e.withRule := by
  obtain ⟨compiled, hcompiled, rfl⟩ := map_eq_ok_iff.mp h
  rw [compileEntry, List.mapM_append, hcompiled, List.mapM_cons, List.mapM_nil]
  cases d.compile typeName g.name hs <;> rfl

/-- If the rules of all fields compile, then with one more for a field it is up to that one. -/
lemma mapM_insertField {g : Field} {fs : List (Field × List RuleDecl)}
    {entries : List RuleBook.Entry} (h : fs.mapM (compileEntry typeName hs) = .ok entries)
    (hg : g.name ∈ fs.map fun e => e.1.name) (d : RuleDecl) :
    (insertField g [d] fs).mapM (compileEntry typeName hs)
      = (d.compile typeName g.name hs).map fun r =>
          RuleBook.appendRule g.name r entries := by
  induction fs generalizing entries with
  | nil => cases hg
  | cons e rest ih =>
      obtain ⟨f, rules⟩ := e
      rw [List.mapM_cons] at h
      obtain ⟨entry, hentry, hrest⟩ := bind_eq_ok_iff.mp h
      obtain ⟨others, hothers, hboth⟩ := bind_eq_ok_iff.mp hrest
      obtain rfl : entry :: others = entries := Except.ok.inj hboth
      have hname : entry.name = f.name := congrArg Field.name (field_of_compileEntry hentry)
      by_cases hhit : f.name = g.name
      · rw [insertField, if_pos hhit, List.mapM_cons, compileEntry_append hentry d, hothers, hhit]
        simp only [RuleBook.appendRule, if_pos (hname.trans hhit)]
        cases d.compile typeName g.name hs <;> rfl
      · have hmem : g.name ∈ rest.map fun e => e.1.name :=
          (List.mem_cons.mp hg).resolve_left (Ne.symm hhit)
        rw [insertField, if_neg hhit, List.mapM_cons, hentry, ih hothers hmem]
        simp only [RuleBook.appendRule, if_neg (hname ▸ hhit)]
        cases d.compile typeName g.name hs <;> rfl

/-- The book of the table with one more rule for a field that is declared: the rule compiles as it
does for the book that is there, and comes behind the other rules of the field. -/
lemma compile_field_of_mem {b : RuleBook} (h : t.compile typeName = .ok b) {g : Field}
    (hg : g.name ∈ t.names) (d : RuleDecl) :
    (t.field g [d]).compile typeName = (b.compileRule g.name d).map (b.withRule g.name) := by
  obtain ⟨entries, hentries, rfl⟩ := map_eq_ok_iff.mp h
  rw [compile, field, mapM_insertField hentries hg d, RuleBook.compileRule]
  cases d.compile typeName g.name t.handlers <;> rfl

end RuleTable

end FieldRules
