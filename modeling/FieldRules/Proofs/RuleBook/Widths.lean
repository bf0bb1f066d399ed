/-
The widths that the rules of a book are bound to, and what they are good for.

* `Rule.Compares`, `ComparesAt`, `ComparesIn`: the numbers that rules compare
  when they are applied one after the other, each with the place of its rule;
* `Keeps`: every rule is bound to the width of its place, if it is bound at all;
  `keeps_evaluate`: and it stays so as long as it compares numbers of this width;
* `Rule.NamesWidth`: the one thing that can be seen of a bound width: the error
  for a value that is no number names it;
* `agrees_evaluate`: as long as rules compare numbers of their widths alone, they
  report what rules report that were never applied, up to such errors.
-/
import FieldRules.Proofs.Rule.Compilation

namespace FieldRules

/-! ### One rule -/

/-- The rule compares the number: it is numeric, it applies to the object, and the number is what
the field holds. -/
structure Rule.Compares (r : Rule) (field : Field) (owner : Entity) (n : Number) : Prop where
  /-- It is numeric. -/
  numeric : ∃ c, r.check = .numeric c
  /-- It applies. -/
  applies : r.applies owner = .ok true
  /-- The number. -/
  number : (field.get owner).number? = some n

/-- The errors that a check ends in for a value that is no number: before it is bound it asks for
any number, afterwards for one of its width. -/
structure Check.NamesWidth (c : Check) (field : Field) (owner : Entity) (e e' : Error) : Prop where
  /-- The value is no number. -/
  value : (field.get owner).number? = none
  /-- The error of a check without a width. -/
  fresh : e = .typeMismatch field.name "number" (field.get owner).kindName
  /-- The error of a check that has one. -/
  bound : ∃ w, c.width? = some w ∧
    e' = .typeMismatch field.name w.name (field.get owner).kindName

/-- The width plays no role for a number that has it. -/
lemma NumericCheck.passes_bound {c : Comparison} {v : Value} {n : Number}
    (hv : v.number? = some n) (field : String) (owner : Entity) :
    (NumericCheck.mk c (some n.width)).passes field v owner
      = (NumericCheck.mk c none).passes field v owner := by
  simp [passes, accept, hv]

/-- A check that is asked about numbers of its width alone says what it said before it was bound, or
it names its width. -/
lemma Check.agrees_validate {c₀ c : Check} (h : c₀.Binds c) {field : Field} {owner : Instance}
    (hn : ∀ w n, c.width? = some w → (field.get owner.object).number? = some n → n.width = w)
    (candidate : Message) :
    AgreesUpTo (c.NamesWidth field owner.object) (c₀.validate field owner candidate)
      (c.validate field owner candidate) := by
  cases h with
  | refl => exact .same _
  | width comparison w =>
      rw [validate, validate]
      refine AgreesUpTo.map ?_ _
      cases hv : (field.get owner.object).number? with
      | none =>
          simp only [NumericCheck.passes, NumericCheck.accept, hv]
          exact .errors ⟨hv, rfl, w, rfl, rfl⟩
      | some n =>
          rw [← hn w n rfl hv, NumericCheck.passes_bound hv]
          exact .same _

namespace Rule

variable {r₀ r : Rule} {field : Field} {owner : Instance}

/-- A rule that is asked about numbers of its width alone says what it said before it was bound, or
it names its width. -/
lemma agrees_validate (h : r₀.Binds r)
    (hn : ∀ w n, r.check.width? = some w → r.Compares field owner.object n → n.width = w)
    (localizer : Option Localizer) :
    AgreesUpTo (r.check.NamesWidth field owner.object) (r₀.validate field owner localizer)
      (r.validate field owner localizer) := by
  have happlies : r₀.applies owner.object = r.applies owner.object := by
    rw [h.rest]
    rfl
  have hcandidate : r₀.candidate localizer = r.candidate localizer := by
    rw [h.rest]
    rfl
  have hintercept : r₀.intercept field owner = r.intercept field owner := by
    rw [h.rest]
    rfl
  rw [validate, validate, happlies, hcandidate, hintercept]
  cases ha : r.applies owner.object with
  | error e => exact .same _
  | ok applies =>
      cases applies with
      | false => exact .same _
      | true =>
          refine AgreesUpTo.map (Check.agrees_validate h.check (fun w n hw hv => ?_) _) _
          have hnumeric : ∃ c, r.check = .numeric c := by
            cases hc : r.check with
            | numeric c => exact ⟨c, rfl⟩
            | present | longer _ | shorter _ | custom _ =>
                rw [hc] at hw
                cases hw
          exact hn w n hw ⟨hnumeric, ha, hv⟩

/-- A rule is bound to the width that it had, or to that of a number that it compares. -/
lemma width_bind {w : Width} (h : (r.bind field owner.object).check.width? = some w) :
    r.check.width? = some w ∨ ∃ n, r.Compares field owner.object n ∧ n.width = w := by
  rw [bind] at h
  split at h
  · rename_i happlies
    cases hc : r.check with
    | numeric c =>
        rw [hc] at h
        change c.width.or (((field.get owner.object).number?).map Number.width) = some w at h
        cases hw : c.width with
        | some w' =>
            rw [hw] at h
            exact .inl (hw.trans h)
        | none =>
            rw [hw, Option.none_or, Option.map_eq_some_iff] at h
            obtain ⟨n, hv, hn⟩ := h
            exact .inr ⟨n, ⟨⟨c, hc⟩, happlies, hv⟩, hn⟩
    | present | longer _ | shorter _ | custom _ =>
        rw [hc] at h
        cases h
  · exact .inl h

end Rule

/-! ### The rules of a field -/

namespace RuleBook

namespace Entry

variable {field : Field} {owner : Instance} {localizer : Option Localizer}
  {rules₀ rules : List Rule} {ws : Nat → Width}

/-- The rule at the place compares the number when the rules are applied in order: it does, and no
rule in front of it ends in an error. -/
inductive ComparesAt (field : Field) (owner : Instance) (localizer : Option Localizer) :
    List Rule → Nat → Number → Prop
  | first {r : Rule} {rest : List Rule} {n : Number} (h : r.Compares field owner.object n) :
      ComparesAt field owner localizer (r :: rest) 0 n
  | behind {r : Rule} {rest : List Rule} {j : Nat} {n : Number} {m : Option Message}
      (hr : r.validate field owner localizer = .ok m)
      (h : ComparesAt field owner localizer rest j n) :
      ComparesAt field owner localizer (r :: rest) (j + 1) n

/-- The rules are bound to no other widths than those of their places. -/
def Keeps (ws : Nat → Width) (rules : List Rule) : Prop :=
  ∀ j r, rules[j]? = some r → ∀ w, r.check.width? = some w → ws j = w

lemma keeps_cons {r : Rule} :
    Keeps ws (r :: rules) ↔
      (∀ w, r.check.width? = some w → ws 0 = w) ∧ Keeps (fun j => ws (j + 1)) rules := by
  constructor
  · exact fun h => ⟨h 0 r rfl, fun j => h (j + 1)⟩
  · rintro ⟨hr, hrest⟩ j s hs
    cases j with
    | zero =>
        obtain rfl : r = s := Option.some.inj hs
        exact hr
    | succ j => exact hrest j s hs

/-- Rules that compare numbers of their widths alone report what they reported before they were
bound, or one of them names its width. -/
lemma agrees_mapM (hb : List.Forall₂ Rule.Binds rules₀ rules) (hk : Keeps ws rules)
    (hn : ∀ j n, ComparesAt field owner localizer rules j n → n.width = ws j) :
    AgreesUpTo (fun e e' => ∃ r ∈ rules, r.check.NamesWidth field owner.object e e')
      (rules₀.mapM fun r => r.validate field owner localizer)
      (rules.mapM fun r => r.validate field owner localizer) := by
  induction hb generalizing ws with
  | nil => exact .same _
  | @cons r₀ r rest₀ rest hr _ ih =>
      obtain ⟨hw, hkrest⟩ := keeps_cons.mp hk
      have hwidth : ∀ w n, r.check.width? = some w → r.Compares field owner.object n →
          n.width = w :=
        fun w n hbound hcompares => (hn 0 n (.first hcompares)).trans (hw w hbound)
      have hfirst := Rule.agrees_validate hr hwidth localizer
      rw [List.mapM_cons, List.mapM_cons]
      refine (hfirst.imp fun e e' h => ⟨r, List.mem_cons_self, h⟩).bind fun m hm => ?_
      have hrest := ih hkrest fun j n h => hn (j + 1) n (.behind hm h)
      refine (hrest.imp ?_).bind fun ms _ => .same _
      rintro e e' ⟨s, hs, h⟩
      exact ⟨s, List.mem_cons_of_mem r hs, h⟩

/-- Rules that compare numbers of their widths alone stay bound to these. -/
lemma keeps_runRules (hk : Keeps ws rules)
    (hn : ∀ j n, ComparesAt field owner localizer rules j n → n.width = ws j)
    (found : List Message) : Keeps ws (runRules field owner localizer rules found).2 := by
  induction rules generalizing ws found with
  | nil => exact hk
  | cons r rest ih =>
      obtain ⟨hw, hkrest⟩ := keeps_cons.mp hk
      have hbind : ∀ w, (r.bind field owner.object).check.width? = some w → ws 0 = w := by
        intro w hbound
        rcases Rule.width_bind hbound with h | ⟨n, hcompares, rfl⟩
        · exact hw w h
        · exact (hn 0 n (.first hcompares)).symm
      rw [runRules, Rule.run]
      cases hr : r.validate field owner localizer with
      | error e => exact keeps_cons.mpr ⟨hbind, hkrest⟩
      | ok m => exact keeps_cons.mpr ⟨hbind, ih hkrest (fun j n h => hn (j + 1) n (.behind hr h)) _⟩

/-- The rule of the entry at the place compares the number when the rules are applied in order. -/
def Compares (e : Entry) (owner : Instance) (localizer : Option Localizer) (j : Nat) (n : Number) :
    Prop :=
  ComparesAt e.field owner localizer e.rules j n

variable {e₀ e : Entry}

lemma agrees_evaluate (he : e₀.Binds e) (hk : Keeps ws e.rules)
    (hn : ∀ j n, e.Compares owner localizer j n → n.width = ws j) :
    AgreesUpTo (fun err err' => ∃ r ∈ e.rules, r.check.NamesWidth e.field owner.object err err')
      (e₀.evaluate owner localizer).1 (e.evaluate owner localizer).1 := by
  rw [fst_evaluate, fst_evaluate, verdicts, verdicts, ← he.field]
  exact (agrees_mapM he.rules hk hn).map _

lemma keeps_evaluate (hk : Keeps ws e.rules)
    (hn : ∀ j n, e.Compares owner localizer j n → n.width = ws j) :
    Keeps ws (e.evaluate owner localizer).2.rules :=
  keeps_runRules hk hn []

end Entry

/-! ### All fields -/

variable {b₀ b : RuleBook} {entries₀ entries : List Entry} {owner : Instance}
  {localizer : Option Localizer} {widths : String → Nat → Width}

/-- The rule at the place of the field compares the number when the rules of all fields are applied
in order: it does, and no field in front of its own ends in an error. -/
inductive ComparesIn (owner : Instance) (localizer : Option Localizer) :
    List Entry → String → Nat → Number → Prop
  | first {e : Entry} {rest : List Entry} {j : Nat} {n : Number}
      (h : e.Compares owner localizer j n) :
      ComparesIn owner localizer (e :: rest) e.name j n
  | behind {e : Entry} {rest : List Entry} {f : String} {j : Nat} {n : Number}
      {ms : List Message} (he : (e.evaluate owner localizer).1 = .ok ms)
      (h : ComparesIn owner localizer rest f j n) :
      ComparesIn owner localizer (e :: rest) f j n

/-- The rules of the book are bound to no other widths than those of their fields and places. -/
def Keeps (widths : String → Nat → Width) (b : RuleBook) : Prop :=
  ∀ e ∈ b.entries, Entry.Keeps (widths e.name) e.rules

/-- One of the rules of the book names its width. -/
def NamesWidth (b : RuleBook) (owner : Entity) (err err' : Error) : Prop :=
  ∃ e ∈ b.entries, ∃ r ∈ e.rules, r.check.NamesWidth e.field owner err err'

lemma agrees_mapM (hb : List.Forall₂ Entry.Binds entries₀ entries)
    (hk : ∀ e ∈ entries, Entry.Keeps (widths e.name) e.rules)
    (hn : ∀ f j n, ComparesIn owner localizer entries f j n → n.width = widths f j) :
    AgreesUpTo
      (fun err err' => ∃ e ∈ entries, ∃ r ∈ e.rules,
        r.check.NamesWidth e.field owner.object err err')
      (entries₀.mapM fun e => (e.evaluate owner localizer).1.map (e.name, ·))
      (entries.mapM fun e => (e.evaluate owner localizer).1.map (e.name, ·)) := by
  induction hb with
  | nil => exact .same _
  | @cons e₀ e rest₀ rest he _ ih =>
      have hname : e₀.name = e.name := by rw [Entry.name, Entry.name, he.field]
      have hfirst := Entry.agrees_evaluate he (hk e List.mem_cons_self) fun j n h =>
        hn e.name j n (.first h)
      rw [List.mapM_cons, List.mapM_cons, hname]
      refine ((hfirst.map _).imp fun err err' h => ⟨e, List.mem_cons_self, h⟩).bind
        fun r hr => ?_
      obtain ⟨ms, hms, _⟩ := map_eq_ok_iff.mp hr
      have hrest := ih (fun f hf => hk f (List.mem_cons_of_mem e hf)) fun f j n h =>
        hn f j n (.behind hms h)
      refine (hrest.imp ?_).bind fun rs _ => .same _
      rintro err err' ⟨f, hf, h⟩
      exact ⟨f, List.mem_cons_of_mem e hf, h⟩

/-- A book whose rules compare numbers of their widths alone reports what it reported before it was
used, or one of its rules names its width. -/
lemma agrees_evaluate (hb : b₀.Binds b) (hk : b.Keeps widths)
    (hn : ∀ f j n, ComparesIn owner localizer b.entries f j n → n.width = widths f j) :
    AgreesUpTo (b.NamesWidth owner.object) (b₀.evaluate owner localizer).1
      (b.evaluate owner localizer).1 := by
  rw [evaluate, evaluate]
  simp only [fst_evaluateEntries]
  exact agrees_mapM hb.entries hk hn

lemma keeps_evaluateEntries (hk : ∀ e ∈ entries, Entry.Keeps (widths e.name) e.rules)
    (hn : ∀ f j n, ComparesIn owner localizer entries f j n → n.width = widths f j) :
    ∀ e ∈ (evaluateEntries owner localizer entries).2, Entry.Keeps (widths e.name) e.rules := by
  induction entries with
  | nil => exact hk
  | cons e rest ih =>
      have hfirst : Entry.Keeps (widths e.name) (e.evaluate owner localizer).2.rules :=
        Entry.keeps_evaluate (hk e List.mem_cons_self) fun j n h => hn e.name j n (.first h)
      have hname : (e.evaluate owner localizer).2.name = e.name := rfl
      have hold : ∀ f ∈ rest, Entry.Keeps (widths f.name) f.rules :=
        fun f hf => hk f (List.mem_cons_of_mem e hf)
      rw [evaluateEntries]
      cases heval : e.evaluate owner localizer with
      | mk result e' =>
          rw [heval] at hfirst hname
          rw [← hname] at hfirst
          cases result with
          | error err => exact List.forall_mem_cons.mpr ⟨hfirst, hold⟩
          | ok ms =>
              have hrest := ih hold fun f j n h => hn f j n (.behind (by rw [heval]) h)
              exact List.forall_mem_cons.mpr ⟨hfirst, hrest⟩

/-- A book whose rules compare numbers of their widths alone stays bound to these. -/
lemma keeps_evaluate (hk : b.Keeps widths)
    (hn : ∀ f j n, ComparesIn owner localizer b.entries f j n → n.width = widths f j) :
    (b.evaluate owner localizer).2.Keeps widths :=
  keeps_evaluateEntries hk hn

lemma mem_replaceEntry {e f : Entry} (h : f ∈ replaceEntry e entries) : f = e ∨ f ∈ entries := by
  induction entries with
  | nil => cases h
  | cons old rest ih =>
      rw [replaceEntry] at h
      split at h
      · exact (List.mem_cons.mp h).imp id (List.mem_cons_of_mem old)
      · rcases List.mem_cons.mp h with rfl | h
        · exact .inr List.mem_cons_self
        · exact (ih h).imp id (List.mem_cons_of_mem old)

/-- A book stays bound to its widths if the rules of one field are applied and compare numbers of
theirs alone. -/
lemma keeps_evaluateEntry {e : Entry} (hk : b.Keeps widths) (he : e ∈ b.entries)
    (hn : ∀ j n, e.Compares owner localizer j n → n.width = widths e.name j) :
    (b.evaluateEntry e owner localizer).2.Keeps widths := by
  intro f hf
  rcases mem_replaceEntry hf with rfl | hf
  · exact Entry.keeps_evaluate (hk e he) hn
  · exact hk f hf

/-- What is found under a name was bound at most. -/
lemma Binds.rel_entry? (h : b₀.Binds b) (name : String) :
    Option.Rel Entry.Binds (RuleBook.entry? b₀ name) (b.entry? name) := by
  have hentries := h.entries
  unfold entry?
  generalize b₀.entries = entries₀, b.entries = entries at hentries
  induction hentries with
  | nil => exact .none
  | @cons e₀ e rest₀ rest he _ ih =>
      have hname : e.name = e₀.name := by rw [Entry.name, Entry.name, he.field]
      rw [List.find?_cons, List.find?_cons, hname]
      split
      · exact .some he
      · exact ih

lemma Binds.exists_entry? (h : b₀.Binds b) {name : String} {e : Entry}
    (he : b.entry? name = some e) : ∃ e₀, b₀.entry? name = some e₀ ∧ e₀.Binds e := by
  have hrel := h.rel_entry? name
  rw [he] at hrel
  generalize b₀.entry? name = found at hrel
  cases hrel with
  | some hbinds => exact ⟨_, rfl, hbinds⟩

lemma Binds.entry?_eq_none (h : b₀.Binds b) {name : String} (he : b.entry? name = none) :
    b₀.entry? name = none := by
  have hrel := h.rel_entry? name
  rw [he] at hrel
  generalize b₀.entry? name = found at hrel
  cases hrel
  rfl

/-- A book that was not used yet keeps to whatever widths. -/
lemma keeps_of_compile {t : RuleTable} {typeName : String} (h : t.compile typeName = .ok b)
    (widths : String → Nat → Width) : b.Keeps widths := by
  intro e he j r hr w hw
  obtain ⟨d, hd⟩ := RuleTable.compile_of_mem h he (List.mem_of_getElem? hr)
  rw [RuleDecl.width?_of_compile hd] at hw
  cases hw

end RuleBook

end FieldRules
