/-
Objects of one type share the rule book of the type.

* `Visit`, `Registry.after`: an action on some object, and the books after many
  of them, on whatever objects;
* `Registry.shared_after`: the book of the type after visits;
* `Registry.Uniform`: each rule compares numbers of one width only, and
  `uniform_of_fields`: it does if each field holds only such numbers;
* `visits_do_not_interfere`: then every visit ends as it would have ended first.
-/
import FieldRules.Proofs.Site.Reachable
import FieldRules.Proofs.Site.Sharing

namespace FieldRules

/-- An action on an object, with the other store that may receive its messages. -/
structure Visit where
  /-- The object, with its messages. -/
  subject : Instance
  /-- The other store. -/
  proxy : Option Store
  /-- What is done to the object. -/
  action : Action

/-- The reply to the action, and the site afterwards, if these books are in use. -/
def Visit.apply (v : Visit) (m : Model) (r : Registry) : Reply × Site :=
  v.action.apply m ⟨r, v.subject, v.proxy⟩

/-- The books after visits, one after the other. -/
def Registry.after (r : Registry) (m : Model) (visits : List Visit) : Registry :=
  visits.foldl (fun r v => (v.apply m r).2.registry) r

/-- In the course of the visits each rule of a field compares numbers of one width only. -/
def Registry.Uniform (r : Registry) (m : Model) (visits : List Visit) : Prop :=
  ∃ widths : String → Nat → Width, ∀ front v back, visits = front ++ v :: back →
    ∀ b, ((r.after m front).getOrBuild m).1 = .ok b →
      ∀ f j n, v.action.Compares v.subject b f j n → n.width = widths f j

/-! ### One visit after the other -/

variable {m : Model} {r : Registry} {visits : List Visit}

/-- Visits leave the book of the type as it was, but for widths. -/
lemma Registry.shared_after {widths : String → Nat → Width} {r₀ : Registry}
    (h : RuleBook.Shared widths (r₀.getOrBuild m).1 (r.getOrBuild m).1)
    (hn : ∀ front v back, visits = front ++ v :: back →
      ∀ b, ((r.after m front).getOrBuild m).1 = .ok b →
        ∀ f j n, v.action.Compares v.subject b f j n → n.width = widths f j) :
    RuleBook.Shared widths (r₀.getOrBuild m).1 ((r.after m visits).getOrBuild m).1 := by
  induction visits generalizing r with
  | nil => exact h
  | cons v rest ih =>
      have hstep : RuleBook.Shared widths (r₀.getOrBuild m).1
          ((v.apply m r).2.registry.getOrBuild m).1 :=
        (v.action.shares h (hn [] v rest rfl)).2
      refine ih hstep fun front v' back hsplit => hn (v :: front) v' back ?_
      rw [hsplit, List.cons_append]

/-- The book that is built on first use was not used yet. -/
lemma Registry.shared_of_get?_eq_none (hr : r.get? m.typeName = none)
    (widths : String → Nat → Width) :
    RuleBook.Shared widths (r.getOrBuild m).1 (r.getOrBuild m).1 := by
  rcases r.getOrBuild_cases m with ⟨b, hget, _⟩ | ⟨b, _, hcompile, heq⟩ | ⟨e, _, _, heq⟩
  · rw [hr] at hget
    cases hget
  · rw [heq]
    exact .used (.refl b) (RuleBook.keeps_of_compile hcompile widths)
  · rw [heq]
    exact .failed e

/-! ### Fields that hold numbers of one width -/

/-- The book of the model, if it was built, is what its declarations compile to, bound at most. -/
def Registry.Faithful (r : Registry) (m : Model) : Prop :=
  ∀ b, r.get? m.typeName = some b →
    ∃ b₀, m.rules.compile m.typeName = .ok b₀ ∧ b₀.Binds b

namespace Registry

/-- Use of a model leaves its book faithful to the declarations. -/
lemma Faithful.evolves {r' : Registry} (h : r.Faithful m) (hr : r.Evolves m r') :
    r'.Faithful m := by
  intro b hb
  cases hget : r.get? m.typeName with
  | none => exact (hr.built m.typeName b hget hb).2
  | some old =>
      obtain ⟨new, hnew, hbinds⟩ := hr.kept m.typeName old hget
      obtain rfl : new = b := Option.some.inj (hnew.symm.trans hb)
      obtain ⟨b₀, hcompile, hold⟩ := h old hget
      exact ⟨b₀, hcompile, hold.trans hbinds⟩

/-- Visits leave the book of a model faithful to its declarations. -/
lemma Faithful.after (h : r.Faithful m) (visits : List Visit) : (r.after m visits).Faithful m := by
  induction visits generalizing r with
  | nil => exact h
  | cons v rest ih => exact ih (h.evolves (v.action.evolves_apply m ⟨r, v.subject, v.proxy⟩))

/-- The book in use is what the declarations compile to, bound at most. -/
lemma Faithful.binds {b : RuleBook} (h : r.Faithful m) (hb : (r.getOrBuild m).1 = .ok b) :
    ∃ b₀, m.rules.compile m.typeName = .ok b₀ ∧ b₀.Binds b := by
  rcases r.getOrBuild_cases m with ⟨c, hget, heq⟩ | ⟨c, _, hcompile, heq⟩ | ⟨e, _, _, heq⟩
  · rw [heq] at hb
    exact h b (hget.trans (congrArg some (Except.ok.inj hb)))
  · rw [heq] at hb
    exact ⟨b, hcompile.trans hb, .refl b⟩
  · rw [heq] at hb
    cases hb

/-- If each declared field holds numbers of one width only, so do its rules compare. -/
lemma uniform_of_fields (hr : r.get? m.typeName = none) (widths : String → Width)
    (h : ∀ v ∈ visits, ∀ e ∈ m.rules.fields, ∀ n,
      (e.1.get v.subject.object).number? = some n → n.width = widths e.1.name) :
    r.Uniform m visits := by
  refine ⟨fun f _ => widths f, fun front v back hsplit b hb f j n hcompares => ?_⟩
  obtain ⟨e, he, rfl, hv⟩ := Action.number_of_compares hcompares
  have hfaithful : r.Faithful m := fun c hc => by
    rw [hr] at hc
    cases hc
  obtain ⟨b₀, hcompile, hbinds⟩ := (hfaithful.after front).binds hb
  obtain ⟨g, hg, hfield⟩ := RuleTable.exists_field_of_mem hcompile hbinds he
  have hmem : v ∈ visits := by
    rw [hsplit]
    exact List.mem_append_right front List.mem_cons_self
  rw [RuleBook.Entry.name, hfield]
  exact h v hmem g hg n (hfield ▸ hv)

end Registry

/-! ### Visits do not interfere -/

/-- An order that costs too much, and after it one without a price. -/
def twoOrders : List Visit :=
  [⟨(order sevenUnits).subject, none, .validateAll⟩, ⟨(order .null).subject, none, .validateAll⟩]

lemma uniform_twoOrders : Registry.empty.Uniform orders twoOrders := by
  refine Registry.uniform_of_fields rfl (fun _ => .int) fun v hv e he n hn => ?_
  have hfields : orders.rules.fields.map Prod.fst
      = [.ofKey "Name" "Name", .ofKey "Price" "Price"] := rfl
  have hfield : e.1 ∈ orders.rules.fields.map Prod.fst := List.mem_map_of_mem he
  rw [hfields] at hfield
  simp only [twoOrders, List.mem_cons, List.not_mem_nil, or_false] at hv hfield
  rcases hv with rfl | rfl <;> rcases hfield with hfield | hfield <;> rw [hfield] at hn <;> cases hn
  rfl

/-- **Objects do not get in each other's way**: whatever was done before to whatever objects of a
type, an action does with the books in use what it does with a book that was just compiled, as long
as each rule compares numbers of one width only: the object and the other store end up the same,
with the same messages and events, and so is the reply, except that the error for a value that is no
number may name the width of the rule where the fresh rule asks for any number. One more rule that
is applied on the side leaves all books as they are. -/
theorem visits_do_not_interfere (hr : r.get? m.typeName = none) (huniform : r.Uniform m visits) :
    (∀ front v back, visits = front ++ v :: back →
      (v.apply m (r.after m front)).2.subject = (v.apply m r).2.subject ∧
        (v.apply m (r.after m front)).2.proxy = (v.apply m r).2.proxy ∧
        ((v.apply m (r.after m front)).1 = (v.apply m r).1 ∨
          ∃ e e', (r.after m front).NamesWidth m v.subject.object e e' ∧
            (v.apply m r).1 = .failed e ∧ (v.apply m (r.after m front)).1 = .failed e')) ∧
      ∀ (s : Site) (d : RuleDecl) (field : String),
        (((Action.perform d field).apply m s).2.registry.getOrBuild m).1
            = (s.registry.getOrBuild m).1 ∧
          ∀ typeName b, s.registry.get? typeName = some b →
            ((Action.perform d field).apply m s).2.registry.get? typeName = some b := by
  refine ⟨fun front v back hsplit => ?_, fun s d field =>
    ⟨s.getOrBuild_perform d field, fun typeName b h => Site.get?_perform h⟩⟩
  obtain ⟨widths, hn⟩ := huniform
  have hfront : RuleBook.Shared widths (r.getOrBuild m).1 ((r.after m front).getOrBuild m).1 := by
    refine Registry.shared_after (Registry.shared_of_get?_eq_none hr widths)
      fun front' v' back' hsplit' => hn front' v' (back' ++ v :: back) ?_
    rw [hsplit, hsplit', List.append_assoc, List.cons_append]
  obtain ⟨hagrees, _⟩ := v.action.shares hfront (hn front v back hsplit)
  exact ⟨hagrees.subject, hagrees.proxy, hagrees.reply⟩

/-- The second order fails as it would by itself, but for the width that its error names. -/
theorem orders_do_not_interfere :
    Registry.empty.get? orders.typeName = none ∧ Registry.empty.Uniform orders twoOrders ∧
      ∃ first second, twoOrders = [first, second] ∧
        (second.apply orders .empty).1 = .failed (.typeMismatch "Price" "number" "null") ∧
        (second.apply orders (Registry.empty.after orders [first])).1
          = .failed (.typeMismatch "Price" "int" "null") ∧
        (second.apply orders (Registry.empty.after orders [first])).2.subject
          = (second.apply orders .empty).2.subject := by
  obtain ⟨hvisits, _⟩ := visits_do_not_interfere (m := orders) rfl uniform_twoOrders
  obtain ⟨hsubject, _, _⟩ := hvisits [_] _ [] rfl
  exact ⟨rfl, uniform_twoOrders, _, _, rfl, rfl, rfl, hsubject⟩

end FieldRules
