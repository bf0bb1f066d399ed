/-
Objects that are validated with a book that others have used.

* `Instance.ComparesField`: the numbers that are compared when the rules of a
  field are applied to an object;
* `Instance.Shares`: what comes of an operation with a book that was used and
  with one that was not is the same, up to errors that name a width, and the
  book keeps to the widths of its rules;
* `shares_validateAll`, `shares_validateField`, `shares_refresh`: that it is so,
  as long as rules compare numbers of their widths alone;
* `perform_congr`: one more rule does not depend on the use of the others.
-/
import FieldRules.Proofs.Instance.Outcomes
import FieldRules.Proofs.RuleBook.Widths

namespace FieldRules

namespace Instance

/-- Of the rules that are applied to the object when one field is validated, the one at the place of
the field compares the number. -/
inductive ComparesField (x : Instance) (b : RuleBook) (field : String) :
    String → Nat → Number → Prop
  /-- Without a name all rules are applied. -/
  | all {f : String} {j : Nat} {n : Number} (hne : field.isEmpty = true)
      (h : RuleBook.ComparesIn (x.registerFields b) x.localizer b.entries f j n) :
      ComparesField x b field f j n
  | one {e : RuleBook.Entry} {j : Nat} {n : Number} (hne : field.isEmpty = false)
      (he : b.entry? field = some e) (h : e.Compares (x.registerFields b) x.localizer j n) :
      ComparesField x b field e.name j n

/-- What comes of an operation on an object with a book that was used (`shared`) and with the same
book before that (`fresh`). -/
structure Shares (x : Instance) (b : RuleBook) (widths : String → Nat → Width)
    (fresh shared : Except Error Unit × RuleBook × Instance) : Prop where
  /-- The answers agree, up to errors that name a width. -/
  result : AgreesUpTo (b.NamesWidth x.object) fresh.1 shared.1
  /-- The object is the same afterwards, with its messages and events. -/
  subject : shared.2.2 = fresh.2.2
  /-- The book keeps to the widths of its rules. -/
  keeps : shared.2.1.Keeps widths

variable {x : Instance} {b₀ b : RuleBook} {widths : String → Nat → Width} {field : String}

lemma registerFields_congr (hb : b₀.Binds b) (x : Instance) :
    x.registerFields b₀ = x.registerFields b := by
  rw [registerFields, registerFields, hb.names_eq]

lemma shares_validateAll (hb : b₀.Binds b) (hk : b.Keeps widths)
    (hn : ∀ f j n, RuleBook.ComparesIn (x.registerFields b) x.localizer b.entries f j n →
      n.width = widths f j) :
    x.Shares b widths (x.validateAll b₀) (x.validateAll b) := by
  have hagrees : AgreesUpTo (b.NamesWidth x.object)
      (b₀.evaluate (x.registerFields b₀) x.localizer).1
      (b.evaluate (x.registerFields b) x.localizer).1 := by
    rw [registerFields_congr hb]
    exact RuleBook.agrees_evaluate hb hk hn
  have hkeeps : (b.evaluate (x.registerFields b) x.localizer).2.Keeps widths :=
    RuleBook.keeps_evaluate hk hn
  cases heval : (b.evaluate (x.registerFields b) x.localizer).1 with
  | error e' =>
      obtain ⟨e, he, hee'⟩ := hagrees.exists_error heval
      rw [validateAll_of_error he, validateAll_of_error heval]
      exact ⟨.of_error hee', (registerFields_congr hb x).symm, hkeeps⟩
  | ok results =>
      rw [validateAll_of_ok (hagrees.eq_ok heval), validateAll_of_ok heval]
      refine ⟨.same _, ?_, hkeeps⟩
      rw [registerFields_congr hb]

lemma shares_validateField (hb : b₀.Binds b) (hk : b.Keeps widths)
    (hn : ∀ f j n, x.ComparesField b field f j n → n.width = widths f j) :
    x.Shares b widths (x.validateField b₀ field) (x.validateField b field) := by
  have hregister := registerFields_congr hb x
  cases hne : field.isEmpty with
  | true =>
      rw [validateField_of_isEmpty hne, validateField_of_isEmpty hne]
      exact shares_validateAll hb hk fun f j n h => hn f j n (.all hne h)
  | false =>
      cases he : b.entry? field with
      | none =>
          have he₀ := hb.entry?_eq_none he
          cases hreg : (x.registerFields b).store.isRegistered field with
          | false =>
              rw [validateField_of_unknown hne he₀ (hregister ▸ hreg),
                validateField_of_unknown hne he hreg, hregister, hb.typeName]
              exact ⟨.same _, rfl, hk⟩
          | true =>
              rw [validateField_of_stray hne he₀ (hregister ▸ hreg),
                validateField_of_stray hne he hreg, hregister]
              exact ⟨.same _, rfl, hk⟩
      | some e =>
          obtain ⟨e₀, he₀, hbinds⟩ := hb.exists_entry? he
          have hmem : e ∈ b.entries := List.mem_of_find?_eq_some he
          have hcompares : ∀ j n, e.Compares (x.registerFields b) x.localizer j n →
              n.width = widths e.name j := fun j n h => hn e.name j n (.one hne he h)
          have hagrees := RuleBook.Entry.agrees_evaluate hbinds (hk e hmem) hcompares
          have hkeeps := RuleBook.keeps_evaluateEntry hk hmem hcompares
          cases heval : (e.evaluate (x.registerFields b) x.localizer).1 with
          | error err' =>
              obtain ⟨err, herr, hnames⟩ := hagrees.exists_error heval
              rw [validateField_of_error hne he₀ (hregister ▸ herr),
                validateField_of_error hne he heval, hregister]
              exact ⟨.of_error (hnames.imp id fun h => ⟨e, hmem, h⟩), rfl, hkeeps⟩
          | ok ms =>
              rw [validateField_of_ok hne he₀ (hregister ▸ hagrees.eq_ok heval),
                validateField_of_ok hne he heval, hregister]
              exact ⟨.same _, rfl, hkeeps⟩

lemma shares_refresh (hb : b₀.Binds b) (hk : b.Keeps widths)
    (hn : x.store.messages field ≠ [] →
      ∀ f j n, x.ComparesField b field f j n → n.width = widths f j) :
    x.Shares b widths (x.refresh b₀ field) (x.refresh b field) := by
  have hregister := registerFields_congr hb x
  have hrules : (RuleBook.entry? b₀ field).isSome = (b.entry? field).isSome := by
    cases he : b.entry? field with
    | none => rw [hb.entry?_eq_none he]
    | some e =>
        obtain ⟨e₀, he₀, _⟩ := hb.exists_entry? he
        rw [he₀]
        rfl
  rw [refresh, refresh, hregister, hrules, hb.typeName]
  split
  · exact ⟨.same _, rfl, hk⟩
  · split
    · -- the field has messages and rules, which are applied
      rename_i hcondition
      have hmessages : x.store.messages field ≠ [] := by
        simpa using (Bool.and_eq_true_iff.mp hcondition).1
      have hshares : (x.registerFields b).Shares b widths
          ((x.registerFields b).validateField b₀ field)
          ((x.registerFields b).validateField b field) := by
        refine shares_validateField hb hk fun f j n h => hn hmessages f j n ?_
        cases h with
        | all hne h =>
            rw [registerFields_registerFields] at h
            exact .all hne h
        | one hne he h =>
            rw [registerFields_registerFields] at h
            exact .one hne he h
      exact ⟨hshares.result, hshares.subject, hshares.keeps⟩
    · exact ⟨.same _, rfl, hk⟩

/-- What one more rule reports does not depend on the use of the rules of the book. -/
lemma judge_congr (hb : b₀.Binds b) (x : Instance) (d : RuleDecl) (field : String) :
    x.judge b₀ d field = x.judge b d field := by
  rw [judge, judge, RuleBook.compileRule, RuleBook.compileRule, hb.typeName, hb.handlers]
  cases he : b.entry? field with
  | none => rw [hb.entry?_eq_none he]
  | some e =>
      obtain ⟨e₀, he₀, hbinds⟩ := hb.exists_entry? he
      simp only [he₀, hbinds.field]

lemma perform_congr (hb : b₀.Binds b) (x : Instance) (proxy : Option Store) (d : RuleDecl)
    (field : String) : x.perform b₀ proxy d field = x.perform b proxy d field := by
  rw [perform, perform, registerFields_congr hb, judge_congr hb]

end Instance

end FieldRules
