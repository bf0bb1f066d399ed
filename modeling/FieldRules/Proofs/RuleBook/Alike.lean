/-
Books that differ in the order of their handlers alone.

* `RuleBook.Alike`: two books with the same fields and rules, and the same handler
  under each name;
* `RuleDecl.compile_congr`: a declared rule is compiled with the handlers that its
  names have, in whatever order these were declared;
* `RuleTable.alike_compile`: so are all rules of a table;
* `Instance.alike_validateAll`, `alike_validateField`, `alike_refresh`,
  `perform_of_alike`: what is done to an object with the one book is done to it
  with the other.
-/
import FieldRules.Instance
import FieldRules.Proofs.Outcomes

namespace FieldRules

/-- Two books with the same fields and rules, and the same handler under each name. -/
structure RuleBook.Alike (b b' : RuleBook) : Prop where
  /-- The type. -/
  typeName : b'.typeName = b.typeName
  /-- The fields and their rules. -/
  entries : b'.entries = b.entries
  /-- The handlers. -/
  handlers : ∀ name, b'.handlers.find? name = b.handlers.find? name

/-- Two books that are alike, or one error. -/
inductive RuleBook.AlikeOutcomes : Except Error RuleBook → Except Error RuleBook → Prop
  /-- There is no book. -/
  | failed (e : Error) : AlikeOutcomes (.error e) (.error e)
  | alike {b b' : RuleBook} (h : b.Alike b') : AlikeOutcomes (.ok b) (.ok b')

/-! ### Compiling -/

/-- A declared rule is compiled with the handlers that its names have. -/
lemma RuleDecl.compile_congr {hs hs' : Handlers} (h : ∀ name, hs'.find? name = hs.find? name)
    (d : RuleDecl) (typeName field : String) :
    d.compile typeName field hs' = d.compile typeName field hs := by
  have hhandler : ∀ name, handler typeName hs' name = handler typeName hs name := by
    intro name
    rw [handler, handler, h]
  have hinterceptor : d.compileInterceptor typeName hs' = d.compileInterceptor typeName hs := by
    rw [compileInterceptor, compileInterceptor]
    simp only [hhandler]
  have hcheck : compileCheck typeName hs' d.kind = compileCheck typeName hs d.kind := by
    cases d.kind with
    | custom delegate =>
        cases delegate with
        | none => rfl
        | some name => rw [compileCheck, compileCheck, hhandler]
    | _ => rfl
  rw [compile, compile, hinterceptor, hcheck]

/-- Tables with the same fields, and with the same handler under each name, compile to books that
are alike, or to one error. -/
lemma RuleTable.alike_compile {t t' : RuleTable} (hfields : t'.fields = t.fields)
    (h : ∀ name, t'.handlers.find? name = t.handlers.find? name) (typeName : String) :
    RuleBook.AlikeOutcomes (t.compile typeName) (t'.compile typeName) := by
  have hentries : t.fields.mapM (compileEntry typeName t'.handlers)
      = t.fields.mapM (compileEntry typeName t.handlers) := by
    refine mapM_congr fun e _ => ?_
    rw [compileEntry, compileEntry]
    simp only [RuleDecl.compile_congr h]
  rw [compile, compile, hfields, hentries]
  cases t.fields.mapM (compileEntry typeName t.handlers) with
  | error e => exact .failed e
  | ok entries => exact .alike ⟨rfl, rfl, h⟩

/-! ### Use -/

namespace RuleBook.Alike

variable {b b' : RuleBook} {x : Instance} {l : Option Localizer}

lemma entry?_eq (h : b.Alike b') (name : String) : b'.entry? name = b.entry? name := by
  unfold entry?
  rw [h.entries]

lemma names_eq (h : b.Alike b') : b'.names = b.names := by
  rw [names, names, h.entries]

lemma ruleCount_eq (h : b.Alike b') : b'.ruleCount = b.ruleCount := by
  rw [ruleCount, ruleCount, h.entries]

/-- All rules of books that are alike report the same, and the books are alike afterwards. -/
lemma evaluate (h : b.Alike b') (x : Instance) (l : Option Localizer) :
    (b'.evaluate x l).1 = (b.evaluate x l).1 ∧ (b.evaluate x l).2.Alike (b'.evaluate x l).2 := by
  rw [RuleBook.evaluate, RuleBook.evaluate, h.entries]
  exact ⟨rfl, h.typeName, rfl, h.handlers⟩

/-- The rules of one field in books that are alike report the same, and the books are alike
afterwards. -/
lemma evaluateEntry (h : b.Alike b') (e : Entry) (x : Instance) (l : Option Localizer) :
    (b'.evaluateEntry e x l).1 = (b.evaluateEntry e x l).1 ∧
      (b.evaluateEntry e x l).2.Alike (b'.evaluateEntry e x l).2 := by
  rw [RuleBook.evaluateEntry, RuleBook.evaluateEntry, h.entries]
  exact ⟨rfl, h.typeName, rfl, h.handlers⟩

end RuleBook.Alike

namespace Instance

/-- What is left of an object, beside what is left of it with a book that is alike. -/
structure Alike (o o' : Except Error Unit × RuleBook × Instance) : Prop where
  /-- The answer. -/
  result : o'.1 = o.1
  /-- The book. -/
  book : o.2.1.Alike o'.2.1
  /-- The object. -/
  subject : o'.2.2 = o.2.2

variable {b b' : RuleBook} (h : b.Alike b') (x : Instance)

include h

lemma registerFields_of_alike : x.registerFields b' = x.registerFields b := by
  rw [registerFields, registerFields, h.names_eq]

lemma alike_validateAll : Alike (x.validateAll b) (x.validateAll b') := by
  rw [validateAll, validateAll, registerFields_of_alike h]
  have heval := h.evaluate (x.registerFields b) (x.registerFields b).localizer
  generalize b.evaluate _ _ = o, b'.evaluate _ _ = o' at heval
  obtain ⟨result, c⟩ := o
  obtain ⟨result', c'⟩ := o'
  obtain ⟨rfl, hbook⟩ : result' = result ∧ c.Alike c' := heval
  cases result' with
  | error e => exact ⟨rfl, hbook, rfl⟩
  | ok results => exact ⟨rfl, hbook, rfl⟩

lemma alike_validateField (field : String) :
    Alike (x.validateField b field) (x.validateField b' field) := by
  rw [validateField, validateField]
  split
  · exact alike_validateAll h x
  · rw [registerFields_of_alike h, h.entry?_eq]
    cases b.entry? field with
    | none =>
        simp only [h.typeName]
        split
        · exact ⟨rfl, h, rfl⟩
        · exact ⟨rfl, h, rfl⟩
    | some e =>
        have heval := h.evaluateEntry e (x.registerFields b) (x.registerFields b).localizer
        simp only
        generalize b.evaluateEntry _ _ _ = o, b'.evaluateEntry _ _ _ = o' at heval
        obtain ⟨result, c⟩ := o
        obtain ⟨result', c'⟩ := o'
        obtain ⟨rfl, hbook⟩ : result' = result ∧ c.Alike c' := heval
        cases result' with
        | error e => exact ⟨rfl, hbook, rfl⟩
        | ok ms => exact ⟨rfl, hbook, rfl⟩

lemma alike_refresh (field : String) : Alike (x.refresh b field) (x.refresh b' field) := by
  rw [refresh, refresh, registerFields_of_alike h, h.entry?_eq, h.typeName]
  split
  · exact ⟨rfl, h, rfl⟩
  · split
    · exact alike_validateField h (x.registerFields b) field
    · exact ⟨rfl, h, rfl⟩

/-- One more rule does the same with a book that is alike, as it is compiled with the same
handlers. -/
lemma perform_of_alike (proxy : Option Store) (d : RuleDecl) (field : String) :
    x.perform b' proxy d field = x.perform b proxy d field := by
  have hjudge : ∀ y : Instance, y.judge b' d field = y.judge b d field := by
    intro y
    have hcompile : b'.compileRule field d = b.compileRule field d := by
      rw [RuleBook.compileRule, RuleBook.compileRule, h.typeName,
        RuleDecl.compile_congr h.handlers]
    rw [judge, judge, h.entry?_eq, hcompile, h.typeName]
  rw [perform, perform, registerFields_of_alike h, hjudge]

lemma fieldMessages_of_alike : x.fieldMessages b' = x.fieldMessages b := by
  rw [fieldMessages, fieldMessages, h.names_eq]

end Instance

end FieldRules
