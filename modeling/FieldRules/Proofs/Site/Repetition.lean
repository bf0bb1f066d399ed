/-
All rules, applied twice in a row.

* `Instance.validateAll_of_error_twice`, `Instance.validateAll_of_ok_twice`: the
  second time there is the same error and nothing happens, or each declared field
  publishes what it has and nothing else happens;
* `validateAll_twice`: so it is on a site, whatever messages and whatever widths
  there were in the beginning.
-/
import FieldRules.Proofs.RuleBook.Repetition
import FieldRules.Proofs.Site.Validation

namespace FieldRules

namespace Instance

variable {x : Instance} {b : RuleBook}

/-- The rules of the book report a second time what they reported the first time, and are bound no
further. -/
lemma evaluate_evaluate (hb : b.FieldsOnly) (x y : Instance) (hxy : x.object = y.object)
    (b' : RuleBook) :
    (b.evaluate (x.registerFields b) x.localizer).2.evaluate (y.registerFields b') x.localizer
      = b.evaluate (x.registerFields b) x.localizer := by
  have hobject : (x.registerFields b).object = (y.registerFields b').object := hxy
  exact RuleBook.evaluate_evaluate hb hobject x.localizer

/-- The fields that the book declares are registered once its rules were applied. -/
lemma registerFields_validateAll (x : Instance) (b : RuleBook) :
    (x.validateAll b).2.2.registerFields (x.validateAll b).2.1 = (x.validateAll b).2.2 := by
  have hnames : (x.validateAll b).2.1.names = b.names := (x.orderly_validateAll b).binds.names_eq
  refine registerFields_of_mem fun f hf => ?_
  rw [names_validateAll]
  exact (Store.mem_names_registerAll _ _ _).mpr (.inr (hnames ▸ hf))

/-- After an error there is the same error again, and nothing happens. -/
lemma validateAll_of_error_twice (hb : b.FieldsOnly) {e : Error}
    (h : (x.validateAll b).1 = .error e) :
    (x.validateAll b).2.2.validateAll (x.validateAll b).2.1 = x.validateAll b := by
  have hregistered := x.registerFields_validateAll b
  cases heval : (b.evaluate (x.registerFields b) x.localizer).1 with
  | ok results =>
      rw [validateAll_of_ok heval] at h
      cases h
  | error e =>
      rw [validateAll_of_error heval] at hregistered ⊢
      let y : Instance := x.registerFields b
      let b' : RuleBook := (b.evaluate (x.registerFields b) x.localizer).2
      have hagain : b'.evaluate (y.registerFields b') x.localizer
          = b.evaluate (x.registerFields b) x.localizer := evaluate_evaluate hb x y rfl b'
      have heval' : (b'.evaluate (y.registerFields b') y.localizer).1 = .error e :=
        (congrArg Prod.fst hagain).trans heval
      have hsecond : y.validateAll b'
          = (.error e, (b'.evaluate (y.registerFields b') x.localizer).2, y.registerFields b') :=
        validateAll_of_error heval'
      have hy : y.registerFields b' = y := hregistered
      rw [hagain, hy] at hsecond
      exact hsecond

/-- After an answer each declared field publishes what it has, and nothing else happens. -/
lemma validateAll_of_ok_twice (hx : x.store.names.Nodup) (hnd : b.names.Nodup) (hb : b.FieldsOnly)
    (h : (x.validateAll b).1 = .ok ()) :
    (x.validateAll b).2.2.validateAll (x.validateAll b).2.1
      = (.ok (), (x.validateAll b).2.1,
          { (x.validateAll b).2.2 with
            store := { (x.validateAll b).2.2.store with
              published := (x.validateAll b).2.2.store.published
                ++ b.names.map fun f => ⟨f, (x.validateAll b).2.2.store.messages f⟩ } }) := by
  have hregistered := x.registerFields_validateAll b
  cases heval : (b.evaluate (x.registerFields b) x.localizer).1 with
  | error e =>
      rw [validateAll_of_error heval] at h
      cases h
  | ok results =>
      have hresults : b.Reports (x.registerFields b) x.localizer results :=
        RuleBook.evaluate_eq_ok_iff.mp heval
      have hresultsNd : (results.map Prod.fst).Nodup := by rwa [hresults.names_eq]
      have hreg : ∀ r ∈ results, r.1 ∈ (x.registerFields b).store.names := by
        intro r hr
        have hname : r.1 ∈ results.map Prod.fst := List.mem_map_of_mem hr
        rw [hresults.names_eq] at hname
        exact (Store.mem_names_registerAll _ _ _).mpr (.inr hname)
      have hstore := Store.commitAll_commitAll (names_registerFields hx b) hresultsNd hreg
      rw [Store.events_commitAll _ (names_registerFields hx b) hresultsNd, hresults.names_eq]
        at hstore
      rw [validateAll_of_ok heval] at hregistered ⊢
      -- the object and the book as the first time leaves them
      let y : Instance := { x with store := (x.registerFields b).store.commitAll results }
      let b' : RuleBook := (b.evaluate (x.registerFields b) x.localizer).2
      have hagain : b'.evaluate (y.registerFields b') x.localizer
          = b.evaluate (x.registerFields b) x.localizer := evaluate_evaluate hb x y rfl b'
      have heval' : (b'.evaluate (y.registerFields b') y.localizer).1 = .ok results :=
        (congrArg Prod.fst hagain).trans heval
      have hsecond : y.validateAll b'
          = (.ok (), (b'.evaluate (y.registerFields b') x.localizer).2,
              { y with store := (y.registerFields b').store.commitAll results }) :=
        validateAll_of_ok heval'
      have hy : y.registerFields b' = y := hregistered
      rw [hagain, hy, hstore] at hsecond
      exact hsecond

end Instance

variable {m : Model} {s t : Site} {reply : Reply}

/-- **Twice is once**: all rules that are applied a second time, after an answer or after an error,
whatever messages and whatever widths there were before the first time, end in the same reply and
leave the same fields with the same messages and the same book. After an error nothing is published
either time. After an answer each declared field publishes what it has now, in order, the first time
behind the fields that it was not declared for and that lost their messages, the second time and
nothing else. -/
theorem validateAll_twice (hx : s.subject.store.Reachable)
    (hbook : ∀ b, (s.registry.getOrBuild m).1 = .ok b → b.Compiled ∧ b.FieldsOnly)
    (honce : Action.validateAll.apply m s = (reply, t)) :
    (Action.validateAll.apply m t).1 = reply ∧
      (Action.validateAll.apply m t).2.subject.store.fields = t.subject.store.fields ∧
      ((Action.validateAll.apply m t).2.registry.getOrBuild m).1 = (t.registry.getOrBuild m).1 ∧
      ((∃ e, reply = .failed e ∧ (Action.validateAll.apply m t).2.subject = t.subject ∧
          t.subject.store.published = s.subject.store.published) ∨
        reply = .done ∧ ∃ b, (s.registry.getOrBuild m).1 = .ok b ∧
          t.subject.store.published
            = s.subject.store.published
              ++ (s.subject.store.names.filter fun f =>
                    !(s.subject.store.messages f).isEmpty && !b.names.contains f).map
                      (fun f => ⟨f, []⟩)
              ++ b.names.map (fun f => ⟨f, t.subject.store.messages f⟩) ∧
          (Action.validateAll.apply m t).2.subject.store.published
            = t.subject.store.published
              ++ b.names.map fun f => ⟨f, t.subject.store.messages f⟩) := by
  cases hfound : s.registry.getOrBuild m with
  | mk result r =>
      cases result with
      | error e =>
          -- no book the first time, and none the second time
          have hnone : Action.validateAll.apply m s = (.failed e, s) :=
            Site.applying_of_error hfound Instance.validateAll
          obtain ⟨rfl, rfl⟩ := Prod.mk.inj (hnone.symm.trans honce)
          rw [hnone]
          exact ⟨rfl, rfl, rfl, .inl ⟨e, rfl, rfl, rfl⟩⟩
      | ok b =>
          have hfst : (s.registry.getOrBuild m).1 = .ok b := by rw [hfound]
          obtain ⟨hcompiled, hb⟩ := hbook b hfst
          have hnd := hcompiled.nodup_names
          have hfirst := Site.apply_validateAll hfst
          rw [honce] at hfirst
          obtain ⟨hreply, ht⟩ := Prod.mk.inj hfirst
          have hsubject : t.subject = (s.subject.validateAll b).2.2 := by rw [ht]
          have hkept : (t.registry.getOrBuild m).1 = .ok (s.subject.validateAll b).2.1 := by
            rw [ht]
            exact Registry.getOrBuild_update hfst _
          have hbooks := Registry.getOrBuild_update hkept (s.subject.validateAll b).2.1
          have hsecond := Site.apply_validateAll hkept
          rw [hsubject] at hsecond ⊢
          cases hresult : (s.subject.validateAll b).1 with
          | error e =>
              have hfailed := ((s.subject.orderly_validateAll b).failed e hresult).1
              rw [Instance.validateAll_of_error_twice hb hresult] at hsecond
              rw [hresult] at hreply
              rw [hsecond, hreply, hkept, hresult]
              refine ⟨rfl, rfl, hbooks, .inl ⟨e, rfl, rfl, ?_⟩⟩
              rw [hfailed, Instance.published_registerFields]
          | ok _ =>
              have hpublished := Instance.published_validateAll hx.nodup_names hnd hresult
              rw [Instance.validateAll_of_ok_twice hx.nodup_names hnd hb hresult] at hsecond
              rw [hresult] at hreply
              rw [hsecond, hreply, hkept]
              exact ⟨rfl, rfl, hbooks, .inr ⟨rfl, b, rfl, hpublished, rfl⟩⟩

/-- An order that costs too much loses its odd note once; what is wrong with its name and its price
is published twice. -/
theorem validateAll_order_twice :
    (order sevenUnits).subject.store.Reachable ∧ ordersBook.Compiled ∧ ordersBook.FieldsOnly ∧
      ∃ t, Action.validateAll.apply orders (order sevenUnits) = (.done, t) ∧
        (Action.validateAll.apply orders t).1 = .done ∧
        (Action.validateAll.apply orders t).2.subject.store.published
          = [⟨"Note", [⟨.error, "odd"⟩]⟩, ⟨"Note", []⟩, ⟨"Name", [⟨.error, "no name"⟩]⟩,
              ⟨"Price", [⟨.warning, "too dear"⟩]⟩, ⟨"Name", [⟨.error, "no name"⟩]⟩,
              ⟨"Price", [⟨.warning, "too dear"⟩]⟩] := by
  have hx := (reachable_order sevenUnits).store
  have hcompiled : ordersBook.Compiled :=
    ⟨orders.rules, "Order", ordersBook, declared_orders, rfl, .refl ordersBook⟩
  have hbook : ∀ b, ((order sevenUnits).registry.getOrBuild orders).1 = .ok b →
      b.Compiled ∧ b.FieldsOnly := by
    intro b hb
    obtain rfl := Except.ok.inj (hb.symm.trans (getOrBuild_order sevenUnits))
    exact ⟨hcompiled, fieldsOnly_ordersBook⟩
  have honce : Action.validateAll.apply orders (order sevenUnits)
      = (.done, (Action.validateAll.apply orders (order sevenUnits)).2) := rfl
  obtain ⟨hreply, _, _, hfailed | ⟨_, b, hb, hfirst, hsecond⟩⟩ := validateAll_twice hx hbook honce
  · obtain ⟨e, he, _⟩ := hfailed
    cases he
  · refine ⟨hx, hcompiled, fieldsOnly_ordersBook, _, honce, hreply, ?_⟩
    obtain rfl := Except.ok.inj (hb.symm.trans (getOrBuild_order sevenUnits))
    rw [hsecond]
    rfl

end FieldRules
