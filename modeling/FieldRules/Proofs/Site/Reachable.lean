/-
The sites there are, and what actions make of their books.

* `Registry.Evolves`: books that are there are bound at most, and a new one is
  compiled from the declarations of the model that was used;
* `Action.evolves_apply`: every action does no more to the books than that;
* `Registry.Reachable`, `Site.Reachable`: the registries and the sites that
  come about by use;
* `Registry.Reachable.compiled`: their books are compiled from declarations;
* `Site.Reachable.apply`: an action leads from one such site to another;
* `orders`, `order`: a model with two fields, and one of its objects with a
  message on a third;
* `ordersBook`: the book of the model;
* `view`, `belowThree`: a store that receives messages in place of that of an
  order, and one more rule.
-/
import FieldRules.Proofs.Rule.FieldsOnly
import FieldRules.Proofs.Store.History

namespace FieldRules

namespace Registry

/-- What using a model may make of the books: those that are there are bound at most, and a new one
is that of the model. -/
structure Evolves (m : Model) (r r' : Registry) : Prop where
  /-- The books that are there. -/
  kept : ∀ typeName b, r.get? typeName = some b → ∃ b', r'.get? typeName = some b' ∧ b.Binds b'
  /-- A new book. -/
  built : ∀ typeName b', r.get? typeName = none → r'.get? typeName = some b' →
    typeName = m.typeName ∧ ∃ b, m.rules.compile typeName = .ok b ∧ b.Binds b'

variable {r r' : Registry} {m : Model}

lemma Evolves.refl (m : Model) (r : Registry) : r.Evolves m r :=
  ⟨fun _ b h => ⟨b, h, .refl b⟩, fun _ _ h h' => by rw [h] at h'; cases h'⟩

/-- Books evolve if the one of the model is found or built, and then bound. -/
lemma evolves_of_getOrBuild {b b' : RuleBook} (h : r.getOrBuild m = (.ok b, r'))
    (hb : b.Binds b') : r.Evolves m (r'.update m.typeName b') where
  kept := by
    intro typeName c hc
    have hc' := get?_getOrBuild_of_some hc m
    rw [h] at hc'
    by_cases hname : typeName = m.typeName
    · subst hname
      have hfound := get?_of_getOrBuild h
      rw [hc'] at hfound
      rw [get?_update_self (by rw [hc']; rfl), Option.some.inj hfound]
      exact ⟨b', rfl, hb⟩
    · rw [get?_update_of_ne hname]
      exact ⟨c, hc', .refl c⟩
  built := by
    intro typeName c hnone hc
    by_cases hname : typeName = m.typeName
    · subst hname
      rw [get?_update_self (by rw [get?_of_getOrBuild h]; rfl)] at hc
      rcases r.getOrBuild_cases m with ⟨_, hget, _⟩ | ⟨b₀, _, hcompile, heq⟩ | ⟨_, _, _, heq⟩
      · rw [hnone] at hget
        cases hget
      · rw [h] at heq
        cases heq
        rw [← Option.some.inj hc]
        exact ⟨rfl, b, hcompile, hb⟩
      · rw [h] at heq
        cases heq
    · have hother := get?_getOrBuild_of_ne (r := r) hname
      rw [h, hnone] at hother
      rw [get?_update_of_ne hname, hother] at hc
      cases hc

/-- To put back the book that was found or built changes nothing that can be read. -/
lemma evolves_of_getOrBuild_refl {b : RuleBook} (h : r.getOrBuild m = (.ok b, r')) :
    r.Evolves m r' := by
  have hev := evolves_of_getOrBuild h (.refl b)
  have hget : ∀ typeName, (r'.update m.typeName b).get? typeName = r'.get? typeName := by
    intro typeName
    by_cases hname : typeName = m.typeName
    · subst hname
      rw [get?_update_self (by rw [get?_of_getOrBuild h]; rfl), get?_of_getOrBuild h]
    · rw [get?_update_of_ne hname]
  exact ⟨fun typeName c hc => hget typeName ▸ hev.kept typeName c hc,
    fun typeName c hnone hc => hev.built typeName c hnone (hget typeName ▸ hc)⟩

end Registry

namespace Site

/-- What goes on with a book and leaves the registry alone binds no book. -/
lemma evolves_withBook (s : Site) (m : Model) {act : RuleBook → Site → Reply × Site}
    (hact : ∀ b t, (act b t).2.registry = t.registry) :
    s.registry.Evolves m (s.withBook m act).2.registry := by
  rcases s.withBook_cases m act with ⟨e, r, _, happly⟩ | ⟨b, r, hbook, happly⟩
  · rw [happly]
    exact .refl m s.registry
  · rw [happly, hact]
    exact Registry.evolves_of_getOrBuild_refl hbook

/-- An operation that applies the rules of a book binds them at most. -/
lemma evolves_applying (s : Site) (m : Model)
    {op : Instance → RuleBook → Except Error Unit × RuleBook × Instance}
    (hop : ∀ x b, Instance.Orderly x b (op x b)) :
    s.registry.Evolves m (s.applying m op).2.registry := by
  rcases s.applying_cases m op with ⟨e, r, _, happly⟩ | ⟨b, r, hbook, happly⟩
  · rw [happly]
    exact .refl m s.registry
  · rw [happly]
    exact Registry.evolves_of_getOrBuild hbook (hop s.subject b).binds

end Site

/-- An action binds the books that are there at most. -/
lemma Action.evolves_apply (m : Model) (s : Site) (a : Action) :
    s.registry.Evolves m (a.apply m s).2.registry := by
  cases a with
  | registerRuleFields => exact s.evolves_withBook m fun _ _ => rfl
  | validateAll => exact s.evolves_applying m Instance.orderly_validateAll
  | validateField field => exact s.evolves_applying m fun x b => x.orderly_validateField b field
  | refresh field =>
      rw [apply]
      split
      · exact .refl m s.registry
      · exact s.evolves_applying m fun x b => x.orderly_refresh b field
  | perform rule field =>
      rw [apply]
      split
      · exact .refl m s.registry
      · exact s.evolves_withBook m fun _ _ => rfl
  | add msg field =>
      rw [apply]
      split <;> exact .refl m s.registry
  | fieldMessages => exact s.evolves_withBook m fun _ _ => rfl
  | delegate _ _ _ => exact .refl m s.registry
  | registerField _ => exact .refl m s.registry
  | remove _ _ => exact .refl m s.registry
  | clearField _ => exact .refl m s.registry
  | clear => exact .refl m s.registry
  | notify _ => exact .refl m s.registry

/-- The registries there are: they begin without books, and models with declarations are used from
then on. -/
inductive Registry.Reachable : Registry → Prop
  | empty : Reachable .empty
  | built {r : Registry} (m : Model) (hm : m.rules.Declared) (h : Reachable r) :
      Reachable (r.getOrBuild m).2
  | used {s : Site} (m : Model) (a : Action) (hm : m.rules.Declared) (h : Reachable s.registry) :
      Reachable (a.apply m s).2.registry

/-- The sites there are: the registry and both stores come about by use. -/
structure Site.Reachable (s : Site) : Prop where
  /-- The registry. -/
  registry : s.registry.Reachable
  /-- The messages of the object. -/
  store : s.subject.store.Reachable
  /-- Those of the other store. -/
  proxy : ∀ p, s.proxy = some p → p.Reachable

/-- What a model is used with is compiled if the books that are there are. -/
lemma Registry.Evolves.compiled {m : Model} {r r' : Registry} (h : r.Evolves m r')
    (hm : m.rules.Declared)
    (hr : ∀ typeName b, r.get? typeName = some b → b.Compiled) {typeName : String} {b : RuleBook}
    (hb : r'.get? typeName = some b) : b.Compiled := by
  cases hget : r.get? typeName with
  | some b₀ =>
      obtain ⟨b', hb', hbinds⟩ := h.kept typeName b₀ hget
      rw [hb] at hb'
      rw [Option.some.inj hb']
      exact (hr typeName b₀ hget).binds hbinds
  | none =>
      obtain ⟨_, b₀, hcompile, hbinds⟩ := h.built typeName b hget hb
      exact ⟨m.rules, typeName, b₀, hm, hcompile, hbinds⟩

/-- The books there are come from declarations. -/
lemma Registry.Reachable.compiled {r : Registry} (h : r.Reachable) :
    ∀ typeName b, r.get? typeName = some b → b.Compiled := by
  induction h with
  | empty => exact fun _ _ hb => by cases hb
  | @built r m hm _ ih =>
      intro typeName b hb
      cases hbook : r.getOrBuild m with
      | mk result r' =>
          rw [hbook] at hb
          cases result with
          | error e =>
              obtain rfl : r' = r := eq_of_getOrBuild_error hbook
              exact ih typeName b hb
          | ok b₀ => exact (evolves_of_getOrBuild_refl hbook).compiled hm ih hb
  | @used s m a hm _ ih => exact fun _ _ hb => (a.evolves_apply m s).compiled hm ih hb

/-- The book that a model with declarations is used with comes from declarations. -/
lemma Registry.Reachable.compiled_of_getOrBuild {r r' : Registry} {m : Model} {b : RuleBook}
    (h : r.Reachable) (hm : m.rules.Declared) (hbook : r.getOrBuild m = (.ok b, r')) :
    b.Compiled := by
  have hreach := Reachable.built m hm h
  rw [hbook] at hreach
  exact hreach.compiled m.typeName b (get?_of_getOrBuild hbook)

/-- An action leads from one reachable site to another. -/
lemma Site.Reachable.apply {s : Site} (hs : s.Reachable) {m : Model} (hm : m.rules.Declared)
    (a : Action) : (a.apply m s).2.Reachable where
  registry := .used m a hm hs.registry
  store := hs.store.used (.own m s a)
  proxy := by
    intro q hq
    cases hp : s.proxy with
    | none =>
        have hrel := (a.moves_apply m s).proxyWrites
        rw [hp, hq] at hrel
        cases hrel
    | some p =>
        have hsite : { s with proxy := some p } = s := by rw [← hp]
        have hused := (hs.proxy p hp).used (.proxy m s a)
        rw [Use.apply, hsite, hq] at hused
        exact hused

/-! ### Orders -/

/-- Orders have a name, and a price below five. -/
def orders : Model :=
  ⟨"Order",
    (RuleTable.empty.field (.ofKey "Name" "Name")
      [.ofClauses .valuePresent [.error "no name"]]).field (.ofKey "Price" "Price")
        [.ofClauses (.numberLessThan "5" none) [.warning "too dear"]]⟩

/-- An order without a name, and with an odd note. No order was validated before. -/
def order (price : Value) : Site :=
  ⟨.empty, ⟨⟨"Order", [("Price", price)]⟩, none, Store.empty.commit "Note" [⟨.error, "odd"⟩]⟩, none⟩

/-- The book of orders. -/
def ordersBook : RuleBook :=
  ⟨"Order",
    [⟨.ofKey "Name" "Name", [⟨.present, .error, "no name", none, none, none⟩]⟩,
      ⟨.ofKey "Price" "Price",
        [⟨.numeric (.fresh (.lessThan ⟨"5", none⟩)), .warning, "too dear", none, none, none⟩]⟩],
    .empty⟩

/-- Too much for an order. -/
def sevenUnits : Value := .number (.int ⟨7, by decide, by decide⟩)

lemma declared_orders : orders.rules.Declared := .field _ _ (.field _ _ .empty)

lemma reachable_order (price : Value) : (order price).Reachable where
  registry := .empty
  store := .used (.own orders (order price) (.add ⟨.error, "odd"⟩ "Note")) .empty
  proxy := fun _ hp => by cases hp

/-- A view that holds on to what is wrong with a date. -/
def view : Store := Store.empty.commit "Date" [⟨.error, "too late"⟩]

lemma reachable_view : view.Reachable :=
  .used (.own orders (order sevenUnits) (.add ⟨.error, "too late"⟩ "Date")) .empty

/-- A rule that no price of seven meets. -/
def belowThree : RuleDecl := .ofClauses (.numberLessThan "3" none) [.error "above three"]

lemma getOrBuild_order (price : Value) :
    ((order price).registry.getOrBuild orders).1 = .ok ordersBook := rfl

lemma fieldsOnly_ordersBook : ordersBook.FieldsOnly := by
  intro e he r hr h hh
  simp only [ordersBook, List.mem_cons, List.not_mem_nil, or_false] at he
  rcases he with rfl | rfl <;> obtain rfl := List.mem_singleton.mp hr <;> cases hh

end FieldRules
