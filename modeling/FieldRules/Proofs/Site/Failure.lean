/-
Actions that end in an error.

* `Action.appliesRules`: the actions that apply rules to the object;
* `Site.Fails`: what such an action leaves of a site if it fails: all as it was,
  or the declared fields registered;
* `Action.fails_apply`: that it is so, whatever the error and whichever rule,
  condition, bound or declaration it comes from;
* `failed_commits_nothing`: what that means for messages, events and rules.
-/
import FieldRules.Proofs.Site.Reachable

namespace FieldRules

/-- Whether the action applies rules to the object. -/
def Action.appliesRules : Action → Bool
  | validateAll | validateField _ | refresh _ | perform _ _ => true
  | _ => false

/-- What an action that applies rules leaves of a site if it ends in an error. -/
inductive Site.Fails (m : Model) (e : Error) (s : Site) : Site → Prop
  /-- The call was refused, as it named no field. -/
  | refused (he : e = .missingFieldName) : Fails m e s s
  /-- The declarations of the model make no sense. -/
  | uncompiled {r : Registry} (hbook : s.registry.getOrBuild m = (.error e, r)) : Fails m e s s
  /-- All rules were found, and then there was no answer. -/
  | registered {b : RuleBook} {r : Registry} {t : Site}
      (hbook : s.registry.getOrBuild m = (.ok b, r)) (he : e ≠ .missingFieldName)
      (hsubject : t.subject = s.subject.registerFields b) (hproxy : t.proxy = s.proxy) :
      Fails m e s t

variable {m : Model} {s : Site} {e : Error}

/-- An operation that applies the rules of a book fails without a trace in the messages. -/
lemma Site.fails_applying {op : Instance → RuleBook → Except Error Unit × RuleBook × Instance}
    (hop : ∀ x b, Instance.Orderly x b (op x b)) (hfailed : (s.applying m op).1 = .failed e) :
    s.Fails m e (s.applying m op).2 := by
  rcases s.applying_cases m op with ⟨e', r, hbook, happly⟩ | ⟨b, r, hbook, happly⟩
  · rw [happly] at hfailed ⊢
    cases hfailed
    exact .uncompiled hbook
  · rw [happly] at hfailed ⊢
    obtain ⟨hsubject, he⟩ :=
      (hop s.subject b).failed e (Reply.ofUnit_eq_failed_iff.mp hfailed)
    exact .registered hbook he hsubject rfl

/-- One more rule fails without a trace in the messages. -/
lemma Site.fails_perform {rule : RuleDecl} {field : String} (hne : field.isEmpty = false)
    (hfailed : ((Action.perform rule field).apply m s).1 = .failed e) :
    s.Fails m e ((Action.perform rule field).apply m s).2 := by
  rw [Action.apply, hne, if_neg Bool.false_ne_true] at hfailed ⊢
  rcases s.withBook_cases m _ with ⟨e', r, hbook, happly⟩ | ⟨b, r, hbook, happly⟩
  · rw [happly] at hfailed ⊢
    cases hfailed
    exact .uncompiled hbook
  · rw [happly] at hfailed ⊢
    obtain ⟨hperform, he⟩ :=
      Instance.perform_failed hne (Reply.ofReport_eq_failed_iff.mp hfailed)
    rw [hperform]
    exact .registered hbook he rfl rfl

/-- Whatever the error of an action that applies rules, the messages are those from before. -/
lemma Action.fails_apply {a : Action} (ha : a.appliesRules = true)
    (hfailed : (a.apply m s).1 = .failed e) : s.Fails m e (a.apply m s).2 := by
  cases a with
  | validateAll => exact Site.fails_applying Instance.orderly_validateAll hfailed
  | validateField field =>
      exact Site.fails_applying (fun x b => x.orderly_validateField b field) hfailed
  | refresh field =>
      cases hne : field.isEmpty with
      | true =>
          rw [apply, hne] at hfailed ⊢
          cases hfailed
          exact .refused rfl
      | false =>
          rw [apply, hne] at hfailed ⊢
          exact Site.fails_applying (fun x b => x.orderly_refresh b field) hfailed
  | perform rule field =>
      cases hne : field.isEmpty with
      | true =>
          rw [apply, hne] at hfailed ⊢
          cases hfailed
          exact .refused rfl
      | false => exact Site.fails_perform hne hfailed
  | registerRuleFields | delegate | registerField | add | remove | clearField | clear | notify
  | fieldMessages => cases ha

/-- **Failed validation commits nothing**: if an action that applies rules ends in an error, no
event is published and the other store stays as it was. The fields of the object are those from
before, and behind them, without messages, the declared ones that were not registered yet; a call
that names no field and declarations that make no sense add none and leave the site alone. The rules
of the books may at most have been bound to a width. -/
theorem failed_commits_nothing (hm : m.rules.Declared) (hs : s.Reachable) {a : Action}
    (ha : a.appliesRules = true) (hfailed : (a.apply m s).1 = .failed e) :
    (a.apply m s).2.proxy = s.proxy ∧
      (a.apply m s).2.subject.object = s.subject.object ∧
      (a.apply m s).2.subject.localizer = s.subject.localizer ∧
      (a.apply m s).2.subject.store.published = s.subject.store.published ∧
      (e = .missingFieldName → (a.apply m s).2 = s) ∧
      (∀ err, (s.registry.getOrBuild m).1 = .error err → (a.apply m s).2 = s) ∧
      (∀ b, (s.registry.getOrBuild m).1 = .ok b → e ≠ .missingFieldName →
        (a.apply m s).2.subject.store.fields
          = s.subject.store.fields
            ++ (b.names.filter fun f => !s.subject.store.isRegistered f).map fun f => (f, [])) ∧
      s.registry.Evolves m (a.apply m s).2.registry := by
  have hevolves := a.evolves_apply m s
  have hfails := Action.fails_apply ha hfailed
  generalize (a.apply m s).2 = t at hevolves hfails
  cases hfails with
  | refused he => exact ⟨rfl, rfl, rfl, rfl, fun _ => rfl, fun _ _ => rfl,
      fun _ _ hne => absurd he hne, hevolves⟩
  | uncompiled hbook =>
      refine ⟨rfl, rfl, rfl, rfl, fun _ => rfl, fun _ _ => rfl, fun b hb => ?_, hevolves⟩
      rw [hbook] at hb
      cases hb
  | @registered b r t hbook he hsubject hproxy =>
      rw [hsubject]
      refine ⟨hproxy, rfl, rfl, Instance.published_registerFields s.subject b,
        fun h => absurd h he, fun err herr => ?_, fun b' hb' _ => ?_, hevolves⟩
      · rw [hbook] at herr
        cases herr
      · rw [hbook] at hb'
        obtain rfl := Except.ok.inj hb'
        have hnd := (hs.registry.compiled_of_getOrBuild hm hbook).nodup_names
        exact s.subject.store.fields_registerAll hnd

/-- An order without a price whose messages go to a view. -/
def unpricedOrder : Site := { order .null with proxy := some view }

/-- An order whose price is no number fails, after its name was found missing: it keeps its note,
and that is all. One more rule for the price fails just as well, and the view keeps what is wrong
with the date. -/
theorem failed_order_commits_nothing :
    orders.rules.Declared ∧ (order .null).Reachable ∧
      (Action.validateAll.apply orders (order .null)).1
        = .failed (.typeMismatch "Price" "number" "null") ∧
      (Action.validateAll.apply orders (order .null)).2.subject.store.published
        = (order .null).subject.store.published ∧
      (Action.validateAll.apply orders (order .null)).2.subject.store.fields
        = [("Note", [⟨.error, "odd"⟩]), ("Name", []), ("Price", [])] ∧
      unpricedOrder.Reachable ∧
      ((Action.perform belowThree "Price").apply orders unpricedOrder).1
        = .failed (.typeMismatch "Price" "number" "null") ∧
      ((Action.perform belowThree "Price").apply orders unpricedOrder).2.proxy = some view ∧
      ((Action.perform belowThree "Price").apply orders unpricedOrder).2.subject.store.published
        = (order .null).subject.store.published ∧
      ((Action.perform belowThree "Price").apply orders unpricedOrder).2.subject.store.fields
        = [("Note", [⟨.error, "odd"⟩]), ("Name", []), ("Price", [])] := by
  have hfailed : (Action.validateAll.apply orders (order .null)).1
      = .failed (.typeMismatch "Price" "number" "null") := rfl
  obtain ⟨_, _, _, hpublished, _, _, hfields, _⟩ :=
    failed_commits_nothing declared_orders (reachable_order .null) rfl hfailed
  have hreach : unpricedOrder.Reachable :=
    ⟨.empty, (reachable_order .null).store, by rintro q ⟨⟩; exact reachable_view⟩
  have hrefused : ((Action.perform belowThree "Price").apply orders unpricedOrder).1
      = .failed (.typeMismatch "Price" "number" "null") := rfl
  obtain ⟨hproxy, _, _, hsilent, _, _, hkept, _⟩ :=
    failed_commits_nothing declared_orders hreach rfl hrefused
  refine ⟨declared_orders, reachable_order .null, hfailed, hpublished, ?_, hreach, hrefused, hproxy,
    hsilent, ?_⟩
  · rw [hfields _ rfl nofun]
    rfl
  · rw [hkept _ rfl nofun]
    rfl

end FieldRules
