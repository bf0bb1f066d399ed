/-
What the application of all rules leaves of a site.

* `apply_validateAll`, `apply_validateField`: the actions, given the book of the
  model;
* `validateAll_settles_messages`: the messages and the events afterwards come
  from the rules, whatever messages there were before.
-/
import FieldRules.Proofs.Instance.Reports
import FieldRules.Proofs.Site.Reachable

namespace FieldRules

variable {m : Model} {s : Site} {b : RuleBook}

/-- All rules are applied with the book of the model. -/
lemma Site.apply_validateAll (hbook : (s.registry.getOrBuild m).1 = .ok b) :
    Action.validateAll.apply m s
      = (.ofUnit (s.subject.validateAll b).1,
          ⟨(s.registry.getOrBuild m).2.update m.typeName (s.subject.validateAll b).2.1,
            (s.subject.validateAll b).2.2, s.proxy⟩) :=
  applying_of_ok (Prod.ext hbook rfl) Instance.validateAll

/-- The rules of a field are applied with the book of the model. -/
lemma Site.apply_validateField (hbook : (s.registry.getOrBuild m).1 = .ok b) (field : String) :
    (Action.validateField field).apply m s
      = (.ofUnit (s.subject.validateField b field).1,
          ⟨(s.registry.getOrBuild m).2.update m.typeName (s.subject.validateField b field).2.1,
            (s.subject.validateField b field).2.2, s.proxy⟩) :=
  applying_of_ok (Prod.ext hbook rfl) fun x b => x.validateField b field

/-- **What validation leaves behind**: if all rules of the book have an answer, then each declared
field has the messages of its rules in order, and of those with one text the first; every other
field has none; the events published are one with no messages for each field that is not declared
and had some, in the order of registration, and then one for each declared field with all its
messages. The messages do not depend on those that there were before. -/
theorem validateAll_settles_messages (hm : m.rules.Declared) (hs : s.Reachable)
    (hbook : (s.registry.getOrBuild m).1 = .ok b) (hb : b.FieldsOnly)
    (hdone : (Action.validateAll.apply m s).1 = .done) :
    (∀ e ∈ b.entries, ∃ verdicts,
      List.Forall₂ (fun (r : Rule) v =>
        r.validate e.field s.subject s.subject.localizer = .ok v) e.rules verdicts ∧
      (Action.validateAll.apply m s).2.subject.store.messages e.name
        = verdicts.reduceOption.eraseDupsBy Message.sameText) ∧
    (∀ f, f ∉ b.names → (Action.validateAll.apply m s).2.subject.store.messages f = []) ∧
    (Action.validateAll.apply m s).2.subject.store.published
      = s.subject.store.published
        ++ (s.subject.store.names.filter fun f =>
              !(s.subject.store.messages f).isEmpty && !b.names.contains f).map (fun f => ⟨f, []⟩)
        ++ b.names.map (fun f =>
              ⟨f, (Action.validateAll.apply m s).2.subject.store.messages f⟩) ∧
    ∀ t : Site, t.Reachable → t.subject.object = s.subject.object →
      t.subject.localizer = s.subject.localizer → (t.registry.getOrBuild m).1 = .ok b →
      (Action.validateAll.apply m t).1 = .done ∧
        ∀ f, (Action.validateAll.apply m t).2.subject.store.messages f
          = (Action.validateAll.apply m s).2.subject.store.messages f := by
  have hnd : b.names.Nodup :=
    (hs.registry.compiled_of_getOrBuild hm (Prod.ext hbook rfl)).nodup_names
  have hx := hs.store.nodup_names
  rw [Site.apply_validateAll hbook] at hdone ⊢
  have hok := Reply.ofUnit_eq_done_iff.mp hdone
  refine ⟨fun e he => ?_, fun f hf => Instance.messages_validateAll_of_not_mem hx hnd hok hf,
    Instance.published_validateAll hx hnd hok, fun t ht hobject hlocalizer hbook' => ?_⟩
  · have hreport := Instance.messages_validateAll hx hnd hok he
    rw [Instance.report_registerFields hb he] at hreport
    exact Instance.exists_verdicts hreport
  · have hagree : ∀ e ∈ b.entries, (t.subject.registerFields b).report e
        = (s.subject.registerFields b).report e :=
      fun e he => Instance.report_congr hb he hobject hlocalizer
    have hok' : (t.subject.validateAll b).1 = .ok () := by
      rw [Instance.validateAll_ok_iff] at hok ⊢
      intro e he
      rw [hagree e he]
      exact hok e he
    have hx' := ht.store.nodup_names
    rw [Site.apply_validateAll hbook']
    refine ⟨Reply.ofUnit_eq_done_iff.mpr hok', fun f => ?_⟩
    by_cases hf : f ∈ b.names
    · obtain ⟨e, he, rfl⟩ := List.mem_map.mp hf
      have hreport := Instance.messages_validateAll hx hnd hok he
      have hreport' := Instance.messages_validateAll hx' hnd hok' he
      rw [hagree e he, hreport] at hreport'
      exact (Except.ok.inj hreport').symm
    · rw [Instance.messages_validateAll_of_not_mem hx hnd hok hf,
        Instance.messages_validateAll_of_not_mem hx' hnd hok' hf]

/-- An order that costs too much loses its note, and its name and its price are found wanting. -/
theorem validateAll_settles_order :
    orders.rules.Declared ∧ (order sevenUnits).Reachable ∧ ordersBook.FieldsOnly ∧
      (Action.validateAll.apply orders (order sevenUnits)).1 = .done ∧
      (Action.validateAll.apply orders (order sevenUnits)).2.subject.store.messages "Note" = [] ∧
      (Action.validateAll.apply orders (order sevenUnits)).2.subject.store.published
        = [⟨"Note", [⟨.error, "odd"⟩]⟩, ⟨"Note", []⟩, ⟨"Name", [⟨.error, "no name"⟩]⟩,
            ⟨"Price", [⟨.warning, "too dear"⟩]⟩] := by
  have hdone : (Action.validateAll.apply orders (order sevenUnits)).1 = .done := rfl
  obtain ⟨_, hothers, hpublished, _⟩ :=
    validateAll_settles_messages declared_orders (reachable_order sevenUnits)
      (getOrBuild_order sevenUnits) fieldsOnly_ordersBook hdone
  refine ⟨declared_orders, reachable_order sevenUnits, fieldsOnly_ordersBook, hdone,
    hothers "Note" (by decide), ?_⟩
  rw [hpublished]
  rfl

end FieldRules
