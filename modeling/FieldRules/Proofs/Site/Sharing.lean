/-
Actions with a book that others have used.

* `Action.Compares`: the numbers that rules of the book compare in an action, and
  `Action.number_of_compares`: declared fields hold them;
* `RuleBook.Shared`: the book of a type that was used, beside the same book
  before that;
* `Site.Agrees`: two outcomes of an action are the same up to certain errors;
* `Action.shares`: so are those of one action with the one and with the other
  book, and they are such books afterwards;
* `Site.get?_perform`, `Site.getOrBuild_perform`: one more rule leaves the books
  alone.
-/
import FieldRules.Proofs.Instance.Sharing
import FieldRules.Proofs.Site.Writes

namespace FieldRules

/-- In the action on the object, the rule of the book at the place of the field compares the
number. -/
inductive Action.Compares (x : Instance) (b : RuleBook) : Action → String → Nat → Number → Prop
  | validateAll {f : String} {j : Nat} {n : Number}
      (h : RuleBook.ComparesIn (x.registerFields b) x.localizer b.entries f j n) :
      Compares x b .validateAll f j n
  | validateField {field f : String} {j : Nat} {n : Number} (h : x.ComparesField b field f j n) :
      Compares x b (.validateField field) f j n
  | refresh {field f : String} {j : Nat} {n : Number} (hne : field.isEmpty = false)
      (hmessages : x.store.messages field ≠ []) (h : x.ComparesField b field f j n) :
      Compares x b (.refresh field) f j n

/-- The book of a type that may have been used, beside the same book before that. -/
inductive RuleBook.Shared (widths : String → Nat → Width) :
    Except Error RuleBook → Except Error RuleBook → Prop
  /-- The declarations make no sense. -/
  | failed (e : Error) : Shared widths (.error e) (.error e)
  | used {b₀ b : RuleBook} (hb : b₀.Binds b) (hk : b.Keeps widths) :
      Shared widths (.ok b₀) (.ok b)

/-- What an action does with other books in use (`shared`) is what it does with these (`fresh`), up
to errors that stand in a relation. -/
structure Site.Agrees (D : Error → Error → Prop) (fresh shared : Reply × Site) : Prop where
  /-- The object is the same afterwards, with its messages and events. -/
  subject : shared.2.subject = fresh.2.subject
  /-- So is the other store. -/
  proxy : shared.2.proxy = fresh.2.proxy
  /-- The replies agree. -/
  reply : shared.1 = fresh.1 ∨ ∃ e e', D e e' ∧ fresh.1 = .failed e ∧ shared.1 = .failed e'

lemma Site.Agrees.refl {D : Error → Error → Prop} {r₀ r : Registry} (x : Instance)
    (proxy : Option Store) (reply : Reply) :
    Agrees D (reply, ⟨r₀, x, proxy⟩) (reply, ⟨r, x, proxy⟩) :=
  ⟨rfl, rfl, .inl rfl⟩

/-- The replies to outcomes that agree up to a relation. -/
lemma Reply.ofUnit_agrees {D : Error → Error → Prop} {o o' : Except Error Unit}
    (h : AgreesUpTo D o o') :
    ofUnit o' = ofUnit o ∨ ∃ e e', D e e' ∧ ofUnit o = failed e ∧ ofUnit o' = failed e' := by
  cases h with
  | same => exact .inl rfl
  | errors h => exact .inr ⟨_, _, h, rfl, rfl⟩

/-- One of the rules of the book in use names its width. -/
def Registry.NamesWidth (r : Registry) (m : Model) (owner : Entity) (e e' : Error) : Prop :=
  ∃ b, (r.getOrBuild m).1 = .ok b ∧ b.NamesWidth owner e e'

/-! ### The two books in one action -/

variable {m : Model} {r₀ r : Registry} {x : Instance} {proxy : Option Store}
  {widths : String → Nat → Width}

/-- What goes on with a book does the same with both books, if it does so whenever there are two. -/
lemma Site.shares_withBook {D : Error → Error → Prop} {act : RuleBook → Site → Reply × Site}
    (h : RuleBook.Shared widths (r₀.getOrBuild m).1 (r.getOrBuild m).1)
    (hact : ∀ b₀ b r₀' r', r.getOrBuild m = (.ok b, r') → b₀.Binds b → b.Keeps widths →
      Agrees D (act b₀ ⟨r₀', x, proxy⟩) (act b ⟨r', x, proxy⟩) ∧
        RuleBook.Shared widths (.ok b₀)
          ((act b ⟨r', x, proxy⟩).2.registry.getOrBuild m).1) :
    Agrees D (Site.withBook ⟨r₀, x, proxy⟩ m act) (Site.withBook ⟨r, x, proxy⟩ m act) ∧
      RuleBook.Shared widths (r₀.getOrBuild m).1
        ((Site.withBook ⟨r, x, proxy⟩ m act).2.registry.getOrBuild m).1 := by
  cases hbook₀ : r₀.getOrBuild m with
  | mk o₀ r₀' =>
      cases hbook : r.getOrBuild m with
      | mk o r' =>
          rw [hbook₀, hbook] at h
          cases h with
          | failed e =>
              rw [withBook_of_error hbook₀, withBook_of_error hbook, hbook]
              exact ⟨.refl x proxy _, .failed e⟩
          | @used b₀ b hb hk =>
              rw [withBook_of_ok hbook₀, withBook_of_ok hbook]
              exact hact b₀ b r₀' r' hbook hb hk

/-- What does not depend on the use of the book does the same with both, and leaves them alone. -/
lemma Site.shares_reading {D : Error → Error → Prop} {act : RuleBook → Site → Reply × Site}
    (h : RuleBook.Shared widths (r₀.getOrBuild m).1 (r.getOrBuild m).1)
    (hact : ∀ b₀ b r₀' r', b₀.Binds b →
      Agrees D (act b₀ ⟨r₀', x, proxy⟩) (act b ⟨r', x, proxy⟩))
    (hkept : ∀ b r', (act b ⟨r', x, proxy⟩).2.registry = r') :
    Agrees D (Site.withBook ⟨r₀, x, proxy⟩ m act) (Site.withBook ⟨r, x, proxy⟩ m act) ∧
      RuleBook.Shared widths (r₀.getOrBuild m).1
        ((Site.withBook ⟨r, x, proxy⟩ m act).2.registry.getOrBuild m).1 := by
  refine shares_withBook h fun b₀ b r₀' r' hbook hb hk => ⟨hact b₀ b r₀' r' hb, ?_⟩
  rw [hkept, Registry.getOrBuild_of_get? (Registry.get?_of_getOrBuild hbook)]
  exact .used hb hk

/-- An operation that applies the rules of the book does the same with both, as long as rules
compare numbers of their widths alone. -/
lemma Site.shares_applying {op : Instance → RuleBook → Except Error Unit × RuleBook × Instance}
    (h : RuleBook.Shared widths (r₀.getOrBuild m).1 (r.getOrBuild m).1)
    (hop : ∀ b₀ b, (r.getOrBuild m).1 = .ok b → b₀.Binds b → b.Keeps widths →
      x.Shares b widths (op x b₀) (op x b))
    (horderly : ∀ b, x.Orderly b (op x b)) :
    Agrees (r.NamesWidth m x.object) (Site.applying ⟨r₀, x, proxy⟩ m op)
        (Site.applying ⟨r, x, proxy⟩ m op) ∧
      RuleBook.Shared widths (r₀.getOrBuild m).1
        ((Site.applying ⟨r, x, proxy⟩ m op).2.registry.getOrBuild m).1 := by
  refine shares_withBook h fun b₀ b r₀' r' hbook hb hk => ?_
  have hfst : (r.getOrBuild m).1 = .ok b := by rw [hbook]
  have hshares := hop b₀ b hfst hb hk
  have hresult : AgreesUpTo (r.NamesWidth m x.object) (op x b₀).1 (op x b).1 :=
    hshares.result.imp fun _ _ hnames => ⟨b, hfst, hnames⟩
  have hupdate := Registry.getOrBuild_update hfst (op x b).2.1
  rw [hbook] at hupdate
  refine ⟨⟨hshares.subject, rfl, Reply.ofUnit_agrees hresult⟩, ?_⟩
  exact hupdate ▸ .used (hb.trans (horderly b).binds) hshares.keeps

/-- An action does the same with both books, as long as rules compare numbers of their widths
alone; and they are such books afterwards. -/
lemma Action.shares {a : Action}
    (h : RuleBook.Shared widths (r₀.getOrBuild m).1 (r.getOrBuild m).1)
    (hn : ∀ b, (r.getOrBuild m).1 = .ok b → ∀ f j n, a.Compares x b f j n →
      n.width = widths f j) :
    Site.Agrees (r.NamesWidth m x.object) (a.apply m ⟨r₀, x, proxy⟩) (a.apply m ⟨r, x, proxy⟩) ∧
      RuleBook.Shared widths (r₀.getOrBuild m).1
        ((a.apply m ⟨r, x, proxy⟩).2.registry.getOrBuild m).1 := by
  cases a with
  | validateAll =>
      refine Site.shares_applying h (fun b₀ b hbook hb hk => ?_) x.orderly_validateAll
      exact Instance.shares_validateAll hb hk fun f j n hc => hn b hbook f j n (.validateAll hc)
  | validateField field =>
      rw [apply, apply]
      refine Site.shares_applying h (fun b₀ b hbook hb hk => ?_) ?_
      · exact Instance.shares_validateField hb hk fun f j n hc =>
          hn b hbook f j n (.validateField hc)
      · exact fun b => x.orderly_validateField b field
  | refresh field =>
      rw [apply, apply]
      cases hne : field.isEmpty with
      | true => exact ⟨.refl x proxy _, h⟩
      | false =>
          rw [if_neg Bool.false_ne_true, if_neg Bool.false_ne_true]
          refine Site.shares_applying h (fun b₀ b hbook hb hk => ?_) ?_
          · exact Instance.shares_refresh hb hk fun hmessages f j n hc =>
              hn b hbook f j n (.refresh hne hmessages hc)
          · exact fun b => x.orderly_refresh b field
  | perform rule field =>
      rw [apply, apply]
      cases hne : field.isEmpty with
      | true => exact ⟨.refl x proxy _, h⟩
      | false =>
          rw [if_neg Bool.false_ne_true, if_neg Bool.false_ne_true]
          refine Site.shares_reading h (fun b₀ b r₀' r' hb => ?_) ?_
          · simp only [Instance.perform_congr hb]
            exact .refl _ _ _
          · exact fun _ _ => rfl
  | registerRuleFields =>
      rw [apply, apply]
      refine Site.shares_reading h (fun b₀ b r₀' r' hb => ?_) ?_
      · rw [hb.ruleCount_eq, Instance.registerFields_congr hb]
        exact .refl _ _ _
      · exact fun _ _ => rfl
  | fieldMessages =>
      rw [apply, apply]
      refine Site.shares_reading h (fun b₀ b r₀' r' hb => ?_) ?_
      · rw [Instance.fieldMessages, Instance.fieldMessages, hb.names_eq]
        exact .refl _ _ _
      · exact fun _ _ => rfl
  | add msg field =>
      rw [apply, apply]
      cases x.store.add msg field with
      | error e => exact ⟨.refl x proxy _, h⟩
      | ok store => exact ⟨.refl _ proxy _, h⟩
  | delegate _ _ _ | registerField _ | remove _ _ | clearField _ | clear | notify _ =>
      exact ⟨.refl _ _ _, h⟩

/-- One more rule binds no rule of any book. -/
lemma Site.get?_perform {s : Site} {d : RuleDecl} {field typeName : String} {b : RuleBook}
    (h : s.registry.get? typeName = some b) :
    ((Action.perform d field).apply m s).2.registry.get? typeName = some b := by
  rw [Action.apply]
  split
  · exact h
  · rcases s.withBook_cases m _ with ⟨e, r, _, happly⟩ | ⟨b', r, hbook, happly⟩
    · rw [happly]
      exact h
    · have hkept := Registry.get?_getOrBuild_of_some h m
      rw [hbook] at hkept
      rw [happly]
      exact hkept

/-- The book that was there, or would have been built, is there afterwards. -/
lemma Site.getOrBuild_perform (s : Site) (d : RuleDecl) (field : String) :
    (((Action.perform d field).apply m s).2.registry.getOrBuild m).1
      = (s.registry.getOrBuild m).1 := by
  rw [Action.apply]
  split
  · rfl
  · rcases s.withBook_cases m _ with ⟨e, r, _, happly⟩ | ⟨b, r, hbook, happly⟩
    · rw [happly]
    · rw [happly, hbook]
      exact congrArg Prod.fst (Registry.getOrBuild_of_get? (Registry.get?_of_getOrBuild hbook))

/-! ### The numbers that are compared -/

lemma RuleBook.Entry.number_of_compares {e : RuleBook.Entry} {owner : Instance}
    {localizer : Option Localizer} {j : Nat} {n : Number} (h : e.Compares owner localizer j n) :
    (e.field.get owner.object).number? = some n := by
  rw [Compares] at h
  generalize e.rules = rules at h
  induction h with
  | first h => exact h.number
  | behind _ _ ih => exact ih

lemma RuleBook.number_of_comparesIn {owner : Instance} {localizer : Option Localizer}
    {entries : List RuleBook.Entry} {f : String} {j : Nat} {n : Number}
    (h : ComparesIn owner localizer entries f j n) :
    ∃ e ∈ entries, e.name = f ∧ (e.field.get owner.object).number? = some n := by
  induction h with
  | first h => exact ⟨_, List.mem_cons_self, rfl, Entry.number_of_compares h⟩
  | behind _ _ ih =>
      obtain ⟨e, he, hv⟩ := ih
      exact ⟨e, List.mem_cons_of_mem _ he, hv⟩

lemma Instance.number_of_comparesField {x : Instance} {b : RuleBook} {field f : String} {j : Nat}
    {n : Number} (h : x.ComparesField b field f j n) :
    ∃ e ∈ b.entries, e.name = f ∧ (e.field.get x.object).number? = some n := by
  cases h with
  | all _ h =>
      have hnumber := RuleBook.number_of_comparesIn h
      exact hnumber
  | one _ he h =>
      have hnumber := RuleBook.Entry.number_of_compares h
      exact ⟨_, List.mem_of_find?_eq_some he, rfl, hnumber⟩

/-- A number that is compared is what a declared field of the object holds. -/
lemma Action.number_of_compares {x : Instance} {b : RuleBook} {a : Action} {f : String} {j : Nat}
    {n : Number} (h : a.Compares x b f j n) :
    ∃ e ∈ b.entries, e.name = f ∧ (e.field.get x.object).number? = some n := by
  cases h with
  | validateAll h =>
      have hnumber := RuleBook.number_of_comparesIn h
      exact hnumber
  | validateField h => exact Instance.number_of_comparesField h
  | refresh _ _ h => exact Instance.number_of_comparesField h

end FieldRules
