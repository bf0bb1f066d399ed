/-
Actions whose messages go to another store.

* `Store.ChangesAtMost`: a store that differs in one field at most, and that has
  published that field at most once;
* `Store.Takes`: what another store makes of the outcome of an action, in place
  of that of the object;
* `delegate_beside`, `perform_beside`: a check and one more rule write to the
  other store alone, and their outcome is the one without it;
* `proxy_takes_all_writes`: what that means for the site of such an action.
-/
import FieldRules.Proofs.Site.Reachable

namespace FieldRules

namespace Store

variable {s t p q : Store} {m : Message} {field : String}

/-- The second store has the other fields as the first one has them, in their order, and it has
published one event more if the messages of this field differ, and none otherwise. -/
structure ChangesAtMost (field : String) (s t : Store) : Prop where
  /-- The other fields. -/
  others : t.fields.filter (·.1 != field) = s.fields.filter (·.1 != field)
  /-- The events. -/
  fires : FiresOnChange field s t

lemma ChangesAtMost.refl (field : String) (s : Store) : s.ChangesAtMost field s :=
  ⟨rfl, .refl field s⟩

/-- Where one field changes at most, the other fields are registered in both stores, or in
neither. -/
lemma ChangesAtMost.mem_names_iff (h : s.ChangesAtMost field t) {f : String} (hne : f ≠ field) :
    f ∈ t.names ↔ f ∈ s.names := by
  have hothers : ∀ u : Store, f ∈ u.names ↔ f ∈ (u.fields.filter (·.1 != field)).map Prod.fst := by
    intro u
    rw [names, List.mem_map, List.mem_map]
    constructor
    · rintro ⟨e, he, rfl⟩
      exact ⟨e, List.mem_filter.mpr ⟨he, bne_iff_ne.mpr hne⟩, rfl⟩
    · rintro ⟨e, he, rfl⟩
      exact ⟨e, (List.mem_filter.mp he).1, rfl⟩
  rw [hothers t, hothers s, h.others]

/-- Replacing the messages of a field leaves the others alone. -/
lemma filter_replace (field : String) (ms : List Message) (fs : List (String × List Message)) :
    (replace field ms fs).filter (·.1 != field) = fs.filter (·.1 != field) := by
  induction fs with
  | nil => simp [replace]
  | cons e rest ih =>
      obtain ⟨name, old⟩ := e
      by_cases h : name = field
      · simp [replace, h]
      · rw [replace, if_neg h, List.filter_cons, List.filter_cons, ih]

lemma others_commit (s : Store) (field : String) (ms : List Message) :
    (s.commit field ms).fields.filter (·.1 != field) = s.fields.filter (·.1 != field) :=
  filter_replace field ms s.fields

lemma changesAtMost_add (h : s.add m field = .ok t) : s.ChangesAtMost field t where
  others := by
    rw [add] at h
    split at h
    · cases h
    · split at h <;> cases h
      · rfl
      · exact others_commit s field _
  fires := (writes_add h).1

lemma changesAtMost_remove (s : Store) (m : Message) (field : String) :
    s.ChangesAtMost field (s.remove m field).2 where
  others := by
    rw [remove]
    split
    · exact others_commit s field _
    · rfl
  fires := (writes_remove s m field).1

/-- The store `q` is what `p` makes of the outcome of an action on a field: nothing of an error, the
message if there is one, and `cleared` if there is none. -/
structure Takes (p : Store) (field : String) (cleared : Store)
    (result : Except Error (Option Message)) (q : Store) : Prop where
  /-- No other field is touched. -/
  changes : p.ChangesAtMost field q
  /-- An error. -/
  failed : ∀ e, result = .error e → q = p
  /-- No message. -/
  passed : result = .ok none → q = cleared
  /-- A message. -/
  reported : ∀ m, result = .ok (some m) → p.add m field = .ok q

/-- An error is not stored. -/
lemma takes_error (p : Store) (field : String) (cleared : Store) (e : Error) :
    p.Takes field cleared (.error e) p :=
  ⟨.refl field p, fun _ _ => rfl, nofun, nofun⟩

/-- Without a message the store is cleared. -/
lemma takes_none {cleared : Store} (h : p.ChangesAtMost field cleared) :
    p.Takes field cleared (.ok none) cleared :=
  ⟨h, nofun, fun _ => rfl, nofun⟩

/-- A message is added. -/
lemma takes_some (cleared : Store) (h : p.add m field = .ok q) :
    p.Takes field cleared (.ok (some m)) q where
  changes := changesAtMost_add h
  failed := nofun
  passed := nofun
  reported := by
    rintro m' ⟨⟩
    exact h

end Store

namespace Instance

variable (x : Instance) (p : Store) {field : String}

/-- A check whose message goes to another store leaves the object alone, and has the outcome that it
has without the other store. -/
lemma delegate_beside (check : Instance → Bool) (failure : Message) (field : String) :
    ∃ result q, x.delegate (some p) check failure field = (result, x, some q) ∧
      (x.delegate none check failure field).1 = result ∧
      p.Takes field (p.remove failure field).2 result q := by
  simp only [delegate]
  cases hne : field.isEmpty with
  | true => exact ⟨_, _, rfl, rfl, p.takes_error field _ .missingFieldName⟩
  | false =>
      cases hcheck : check x with
      | true => exact ⟨_, _, rfl, rfl, Store.takes_none (p.changesAtMost_remove failure field)⟩
      | false =>
          obtain ⟨q, hq⟩ := p.exists_add failure hne
          obtain ⟨t, ht⟩ := x.store.exists_add failure hne
          refine ⟨.ok (some failure), q, ?_, ?_, Store.takes_some _ hq⟩
          · simp [addTo, hq, Except.map]
          · simp [addTo, ht, Except.map]

/-- One more rule whose message goes to another store registers the declared fields of the object
and does nothing else to it, and has the outcome that it has without the other store. -/
lemma perform_beside (b : RuleBook) (d : RuleDecl) (hne : field.isEmpty = false) :
    ∃ result q, x.perform b (some p) d field = (result, x.registerFields b, some q) ∧
      (x.perform b none d field).1 = result ∧ p.Takes field p result q := by
  simp only [perform]
  cases (x.registerFields b).judge b d field with
  | error e => exact ⟨_, _, rfl, rfl, p.takes_error field p e⟩
  | ok reported =>
      cases reported with
      | none => exact ⟨_, _, rfl, rfl, Store.takes_none (.refl field p)⟩
      | some m =>
          obtain ⟨q, hq⟩ := p.exists_add m hne
          obtain ⟨t, ht⟩ := (x.registerFields b).store.exists_add m hne
          refine ⟨.ok (some m), q, ?_, ?_, Store.takes_some _ hq⟩
          · simp [addTo, hq, Except.map]
          · simp [addTo, ht, Except.map]

end Instance

variable {m : Model} {s : Site} {p : Store} {b : RuleBook} {r : Registry} {e : Error}

/-- With a book one more rule is applied to the object. -/
lemma Site.apply_perform_of_ok {field : String} (hne : field.isEmpty = false)
    (hbook : s.registry.getOrBuild m = (.ok b, r)) (rule : RuleDecl) :
    (Action.perform rule field).apply m s
      = (.ofReport (s.subject.perform b s.proxy rule field).1,
          ⟨r, (s.subject.perform b s.proxy rule field).2.1,
            (s.subject.perform b s.proxy rule field).2.2⟩) := by
  rw [Action.apply, hne, if_neg Bool.false_ne_true, Site.withBook_of_ok hbook]

/-- Without a book no rule is applied. -/
lemma Site.apply_perform_of_error {field : String} (hne : field.isEmpty = false)
    (hbook : s.registry.getOrBuild m = (.error e, r)) (rule : RuleDecl) :
    (Action.perform rule field).apply m s = (.failed e, s) := by
  rw [Action.apply, hne, if_neg Bool.false_ne_true, Site.withBook_of_error hbook]

/-- **Another store takes all writes**: if an action is given another store for its messages, the
object keeps its own, and what the action reports is what it reports without the other store. A
check leaves the object as it is altogether; one more rule may at most register declared fields,
behind those that there are and without messages, and publishes nothing of the object. In the other
store no field but the named one is touched, and one event is published if the messages of that
field change, and none otherwise; if there is an error, or one more rule reports nothing, it stays
as it is. -/
theorem proxy_takes_all_writes (hm : m.rules.Declared) (hs : s.Reachable) (hp : s.proxy = some p) :
    (∀ check failure field, ∃ result q,
      (Action.delegate check failure field).apply m s
          = (.ofReport result, { s with proxy := some q }) ∧
        ((Action.delegate check failure field).apply m { s with proxy := none }).1
          = .ofReport result ∧
        p.Takes field (p.remove failure field).2 result q) ∧
      ∀ rule field, ∃ result t q,
        (Action.perform rule field).apply m s = (.ofReport result, t) ∧ t.proxy = some q ∧
          ((Action.perform rule field).apply m { s with proxy := none }).1 = .ofReport result ∧
          p.Takes field p result q ∧
          t.subject.object = s.subject.object ∧
          t.subject.localizer = s.subject.localizer ∧
          t.subject.store.published = s.subject.store.published ∧
          (∀ f, t.subject.store.messages f = s.subject.store.messages f) ∧
          (t.subject = s.subject ∨ ∃ b, (s.registry.getOrBuild m).1 = .ok b ∧
            t.subject.store.fields = s.subject.store.fields ++
              (b.names.filter fun f => !s.subject.store.isRegistered f).map fun f => (f, [])) := by
  refine ⟨fun check failure field => ?_, fun rule field => ?_⟩
  · obtain ⟨result, q, hbeside, halone, htakes⟩ :=
      s.subject.delegate_beside p check failure field
    refine ⟨result, q, ?_, ?_, htakes⟩
    · rw [Action.apply, hp, hbeside]
    · rw [Action.apply, ← halone]
  · cases hne : field.isEmpty with
    | true =>
        have happly : ∀ t : Site,
            (Action.perform rule field).apply m t = (.failed .missingFieldName, t) := by
          intro t
          rw [Action.apply, hne, if_pos rfl]
        exact ⟨.error .missingFieldName, s, p, happly s, hp, by rw [happly]; rfl,
          p.takes_error field p .missingFieldName, rfl, rfl, rfl, fun _ => rfl, .inl rfl⟩
    | false =>
        cases hbook : s.registry.getOrBuild m with
        | mk found r =>
            cases found with
            | error e =>
                refine ⟨.error e, s, p, Site.apply_perform_of_error hne hbook rule, hp, ?_,
                  p.takes_error field p e, rfl, rfl, rfl, fun _ => rfl, .inl rfl⟩
                rw [Site.apply_perform_of_error (s := { s with proxy := none }) hne hbook rule]
                rfl
            | ok b =>
                obtain ⟨result, q, hbeside, halone, htakes⟩ :=
                  s.subject.perform_beside p b rule hne
                have hnd := (hs.registry.compiled_of_getOrBuild hm hbook).nodup_names
                refine ⟨result, ⟨r, s.subject.registerFields b, some q⟩, q, ?_, rfl, ?_, htakes,
                  rfl, rfl, s.subject.published_registerFields b,
                  s.subject.messages_registerFields b, .inr ⟨b, rfl, ?_⟩⟩
                · rw [Site.apply_perform_of_ok hne hbook, hp, hbeside]
                · rw [Site.apply_perform_of_ok (s := { s with proxy := none }) hne hbook, halone]
                · exact s.subject.store.fields_registerAll hnd

/-! ### An order and a view of it -/

/-- An order whose messages go to the view. -/
def viewedOrder : Site := { order sevenUnits with proxy := some view }

lemma reachable_viewedOrder : viewedOrder.Reachable where
  registry := (reachable_order sevenUnits).registry
  store := (reachable_order sevenUnits).store
  proxy := by
    rintro q ⟨⟩
    exact reachable_view

/-- What one more rule reports on the price of the order is stored in the view, beside what is wrong
with the date; the order keeps its note, and its declared fields are registered. -/
theorem view_takes_price :
    orders.rules.Declared ∧ viewedOrder.Reachable ∧ viewedOrder.proxy = some view ∧
      ∃ t q, (Action.perform belowThree "Price").apply orders viewedOrder
          = (.report (some ⟨.error, "above three"⟩), t) ∧
        t.proxy = some q ∧
        q.fields = [("Date", [⟨.error, "too late"⟩]), ("Price", [⟨.error, "above three"⟩])] ∧
        q.published = view.published ++ [⟨"Price", [⟨.error, "above three"⟩]⟩] ∧
        t.subject.store.published = viewedOrder.subject.store.published ∧
        t.subject.store.fields = [("Note", [⟨.error, "odd"⟩]), ("Name", []), ("Price", [])] := by
  obtain ⟨_, hperform⟩ := proxy_takes_all_writes declared_orders reachable_viewedOrder rfl
  obtain ⟨result, t, q, happly, hproxy, halone, htakes, _, _, hpublished, _, _⟩ :=
    hperform belowThree "Price"
  have hreport : Reply.ofReport result = .report (some ⟨.error, "above three"⟩) :=
    halone.symm.trans rfl
  have hresult : result = .ok (some ⟨.error, "above three"⟩) := by
    cases result with
    | error e => cases hreport
    | ok reported =>
        cases hreport
        rfl
  have hadd := htakes.reported _ hresult
  obtain rfl : q = view.commit "Price" [⟨.error, "above three"⟩] :=
    (Except.ok.inj hadd).symm
  refine ⟨declared_orders, reachable_viewedOrder, rfl, t, _, by rw [happly, hreport], hproxy, rfl,
    rfl, hpublished, ?_⟩
  obtain rfl : t = _ := (congrArg Prod.snd happly).symm
  rfl

end FieldRules
