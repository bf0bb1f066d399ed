/-
What an operation leaves of an object under validation.

* `validateAll_of_ok`, `validateAll_of_error`, `fst_validateAll`,
  `validateField_of_ok`, `validateField_of_error`, `validateField_of_unknown`,
  `validateField_of_stray`, `refresh_cases`: each operation, by what the rules
  say;
* `Instance.Orderly`: what the operations that apply the rules of a book have in
  common: the book is bound at most, the messages change by writes that are
  published, no field twice, and after an error there is nothing but the
  declared fields that were registered first;
* `orderly_validateAll`, `orderly_validateField`, `orderly_refresh`: that it is
  so;
* `Instance.OrderlyBeside`: what the operations that may write to another store
  have in common, `orderlyBeside_perform`, `orderlyBeside_delegate`: that it is
  so;
* `perform_of_silent`, `perform_of_report`, `perform_cases`: one more rule, by what
  it reports;
* `perform_failed`: one that ends in an error stores nothing either.
-/
import FieldRules.Instance
import FieldRules.Proofs.Rule.Errors
import FieldRules.Proofs.RuleBook.Compiled
import FieldRules.Proofs.Store.Writes

namespace FieldRules

namespace Instance

variable {x : Instance} {b : RuleBook} {field : String}

@[simp] lemma localizer_registerFields (x : Instance) (b : RuleBook) :
    (x.registerFields b).localizer = x.localizer := rfl

@[simp] lemma messages_registerFields (x : Instance) (b : RuleBook) (field : String) :
    (x.registerFields b).store.messages field = x.store.messages field :=
  Store.messages_registerAll x.store b.names field

@[simp] lemma published_registerFields (x : Instance) (b : RuleBook) :
    (x.registerFields b).store.published = x.store.published :=
  Store.published_registerAll x.store b.names

/-- Once the declared fields are registered, a field is registered if it was before or has rules. -/
lemma mem_names_registerFields : field ∈ (x.registerFields b).store.names ↔
    field ∈ x.store.names ∨ field ∈ b.names :=
  Store.mem_names_registerAll x.store b.names field

lemma writes_registerFields (x : Instance) (b : RuleBook) :
    x.store.Writes [] (x.registerFields b).store :=
  Store.writes_registerAll x.store b.names

/-! ### All rules -/

lemma validateAll_of_ok {results : List (String × List Message)}
    (h : (b.evaluate (x.registerFields b) x.localizer).1 = .ok results) :
    x.validateAll b
      = (.ok (), (b.evaluate (x.registerFields b) x.localizer).2,
          { x with store := (x.registerFields b).store.commitAll results }) := by
  rw [validateAll]
  cases heval : b.evaluate (x.registerFields b) x.localizer with
  | mk result b' =>
      rw [heval] at h
      obtain rfl : result = .ok results := h
      simp only [localizer_registerFields, heval]
      rfl

lemma validateAll_of_error {e : Error}
    (h : (b.evaluate (x.registerFields b) x.localizer).1 = .error e) :
    x.validateAll b
      = (.error e, (b.evaluate (x.registerFields b) x.localizer).2, x.registerFields b) := by
  rw [validateAll]
  cases heval : b.evaluate (x.registerFields b) x.localizer with
  | mk result b' =>
      rw [heval] at h
      obtain rfl : result = .error e := h
      simp only [localizer_registerFields, heval]

/-- All rules together have an answer if the evaluation of the book has one, and otherwise its
error. -/
lemma fst_validateAll (x : Instance) (b : RuleBook) :
    (x.validateAll b).1
      = (b.evaluate (x.registerFields b) x.localizer).1.map fun _ => () := by
  cases heval : (b.evaluate (x.registerFields b) x.localizer).1 with
  | error e => rw [validateAll_of_error heval]; rfl
  | ok results => rw [validateAll_of_ok heval]; rfl

/-! ### The rules of one field -/

lemma validateField_of_ok {e : RuleBook.Entry} {ms : List Message} (hne : field.isEmpty = false)
    (he : b.entry? field = some e)
    (h : (e.evaluate (x.registerFields b) x.localizer).1 = .ok ms) :
    x.validateField b field
      = (.ok (), (b.evaluateEntry e (x.registerFields b) x.localizer).2,
          { x with store := (x.registerFields b).store.commit field ms }) := by
  rw [validateField, hne]
  cases heval : b.evaluateEntry e (x.registerFields b) x.localizer with
  | mk result b' =>
      have hresult : (b.evaluateEntry e (x.registerFields b) x.localizer).1 = .ok ms := h
      rw [heval] at hresult
      obtain rfl : result = .ok ms := hresult
      simp only [localizer_registerFields, he, heval]
      rfl

lemma validateField_of_error {e : RuleBook.Entry} {err : Error} (hne : field.isEmpty = false)
    (he : b.entry? field = some e)
    (h : (e.evaluate (x.registerFields b) x.localizer).1 = .error err) :
    x.validateField b field
      = (.error err, (b.evaluateEntry e (x.registerFields b) x.localizer).2,
          x.registerFields b) := by
  rw [validateField, hne]
  cases heval : b.evaluateEntry e (x.registerFields b) x.localizer with
  | mk result b' =>
      have hresult : (b.evaluateEntry e (x.registerFields b) x.localizer).1 = .error err := h
      rw [heval] at hresult
      obtain rfl : result = .error err := hresult
      simp only [localizer_registerFields, he, heval]
      rfl

/-- A registered field without rules loses its messages. -/
lemma validateField_of_stray (hne : field.isEmpty = false) (he : b.entry? field = none)
    (hreg : (x.registerFields b).store.isRegistered field = true) :
    x.validateField b field
      = (.ok (), b, { x with store := (x.registerFields b).store.commit field [] }) := by
  rw [validateField, hne]
  simp only [he, hreg]
  rfl

/-- A field that nobody knows is an error. -/
lemma validateField_of_unknown (hne : field.isEmpty = false) (he : b.entry? field = none)
    (hreg : (x.registerFields b).store.isRegistered field = false) :
    x.validateField b field
      = (.error (.unknownField field b.typeName), b, x.registerFields b) := by
  rw [validateField, hne]
  simp only [he, hreg]
  rfl

/-- Without a name every rule is applied. -/
lemma validateField_of_isEmpty (h : field.isEmpty = true) :
    x.validateField b field = x.validateAll b := by
  rw [validateField, if_pos h]

/-- A field is refreshed in one of three ways: it is unknown, it has messages and rules and is
validated, or what it has is published. -/
lemma refresh_cases (x : Instance) (b : RuleBook) (field : String) :
    ((x.registerFields b).store.isRegistered field = false ∧
        x.refresh b field
          = (.error (.unknownField field b.typeName), b, x.registerFields b)) ∨
      x.refresh b field = (x.registerFields b).validateField b field ∨
      x.refresh b field
        = (.ok (), b, { x with store := (x.registerFields b).store.notify field }) := by
  rw [refresh]
  cases hreg : (x.registerFields b).store.isRegistered field with
  | false => exact .inl ⟨rfl, rfl⟩
  | true =>
      by_cases hmessages : (!((x.registerFields b).store.messages field).isEmpty
          && (b.entry? field).isSome) = true
      · exact .inr (.inl (if_pos hmessages))
      · exact .inr (.inr (if_neg hmessages))

/-! ### What they have in common -/

/-- What the operations that apply the rules of a book leave of an object. -/
structure Orderly (x : Instance) (b : RuleBook)
    (outcome : Except Error Unit × RuleBook × Instance) : Prop where
  /-- The rules of the book are bound at most. -/
  binds : b.Binds outcome.2.1
  /-- The object stays. -/
  object : outcome.2.2.object = x.object
  /-- Its localizer stays. -/
  localizer : outcome.2.2.localizer = x.localizer
  /-- Its messages change by writes. If no field is registered twice, and none has two entries in
  the book, these publish no field twice. -/
  writes : ∃ es, x.store.Writes es outcome.2.2.store ∧
    (x.store.names.Nodup → b.names.Nodup → (es.map Event.field).Nodup)
  /-- After an error the declared fields are registered, and nothing else has happened. -/
  failed : ∀ e, outcome.1 = .error e →
    outcome.2.2 = x.registerFields b ∧ e ≠ .missingFieldName

/-- Declared fields that are registered are not registered again. -/
lemma registerFields_of_mem (h : ∀ f ∈ b.names, f ∈ x.store.names) : x.registerFields b = x := by
  rw [registerFields, Store.registerAll_of_mem h]

lemma registerFields_registerFields (x : Instance) (b : RuleBook) :
    (x.registerFields b).registerFields b = x.registerFields b :=
  registerFields_of_mem fun _ hf => mem_names_registerFields.mpr (.inr hf)

/-- What is orderly for the object with its declared fields registered is orderly for the object. -/
lemma Orderly.of_registerFields {outcome : Except Error Unit × RuleBook × Instance}
    (h : (x.registerFields b).Orderly b outcome) : x.Orderly b outcome where
  binds := h.binds
  object := h.object
  localizer := h.localizer
  writes := by
    have hregister := x.writes_registerFields b
    obtain ⟨es, hes, hnd⟩ := h.writes
    exact ⟨[] ++ es, hregister.trans hes, fun hx => hnd (hregister.nodup_names hx)⟩
  failed := by
    intro e he
    obtain ⟨hx, hne⟩ := h.failed e he
    exact ⟨hx.trans (registerFields_registerFields x b), hne⟩

/-- An error after which the declared fields are registered is orderly. -/
lemma orderly_of_error {b' : RuleBook} {e : Error} (hb : b.Binds b')
    (he : e ≠ .missingFieldName) : x.Orderly b (.error e, b', x.registerFields b) where
  binds := hb
  object := rfl
  localizer := rfl
  writes := ⟨[], x.writes_registerFields b, fun _ _ => List.nodup_nil⟩
  failed := fun _ herror => ⟨rfl, Except.error.inj herror ▸ he⟩

/-- Success that writes to the object with its declared fields registered is orderly. -/
lemma orderly_of_ok {b' : RuleBook} {store : Store} {es : List Event} (hb : b.Binds b')
    (hstore : (x.registerFields b).store.Writes es store)
    (hnd : (x.registerFields b).store.names.Nodup → b.names.Nodup → (es.map Event.field).Nodup) :
    x.Orderly b (.ok (), b', { x with store := store }) where
  binds := hb
  object := rfl
  localizer := rfl
  writes := by
    have hregister := x.writes_registerFields b
    exact ⟨[] ++ es, hregister.trans hstore, fun hx => hnd (hregister.nodup_names hx)⟩
  failed := fun _ herror => by cases herror

/-- Success that commits one field is orderly. -/
lemma orderly_of_commit {b' : RuleBook} {ms : List Message} (hb : b.Binds b')
    (hms : DistinctTexts ms) :
    x.Orderly b (.ok (), b', { x with store := (x.registerFields b).store.commit field ms }) :=
  orderly_of_ok hb (Store.Writes.refl.commit field fun _ => hms)
    fun _ _ => List.nodup_singleton field

lemma orderly_validateAll (x : Instance) (b : RuleBook) : x.Orderly b (x.validateAll b) := by
  have hbinds := b.binds_evaluate (x.registerFields b) x.localizer
  cases heval : (b.evaluate (x.registerFields b) x.localizer).1 with
  | error e =>
      rw [validateAll_of_error heval]
      exact orderly_of_error hbinds (RuleBook.ofRule_of_evaluate heval).ne_missingFieldName
  | ok results =>
      rw [validateAll_of_ok heval]
      have hms : ∀ r ∈ results, DistinctTexts r.2 := by
        intro r hr
        obtain ⟨e, _, her, _⟩ := exists_left_of_forall₂ (RuleBook.evaluate_eq_ok_iff.mp heval) hr
        exact RuleBook.Entry.distinctTexts_of_evaluate her
      refine orderly_of_ok hbinds (Store.writes_commitAll _ hms) fun hx hb => ?_
      rw [← (RuleBook.evaluate_eq_ok_iff.mp heval).names_eq] at hb
      rw [List.map_append, List.map_map, List.map_map]
      exact (List.map_id _).symm ▸ Store.nodup_stale_append hx hb

lemma orderly_validateField (x : Instance) (b : RuleBook) (field : String) :
    x.Orderly b (x.validateField b field) := by
  cases hne : field.isEmpty with
  | true =>
      rw [validateField_of_isEmpty hne]
      exact orderly_validateAll x b
  | false =>
      cases he : b.entry? field with
      | none =>
          cases hreg : (x.registerFields b).store.isRegistered field with
          | false =>
              rw [validateField_of_unknown hne he hreg]
              exact orderly_of_error (.refl b) nofun
          | true =>
              rw [validateField_of_stray hne he hreg]
              exact orderly_of_commit (.refl b) distinctTexts_nil
      | some e =>
          have hbinds := RuleBook.binds_evaluateEntry he (x.registerFields b) x.localizer
          cases heval : (e.evaluate (x.registerFields b) x.localizer).1 with
          | error err =>
              rw [validateField_of_error hne he heval]
              exact orderly_of_error hbinds
                (RuleBook.Entry.ofRule_of_evaluate heval).ne_missingFieldName
          | ok ms =>
              rw [validateField_of_ok hne he heval]
              exact orderly_of_commit hbinds (RuleBook.Entry.distinctTexts_of_evaluate heval)

lemma orderly_refresh (x : Instance) (b : RuleBook) (field : String) :
    x.Orderly b (x.refresh b field) := by
  rcases refresh_cases x b field with ⟨_, h⟩ | h | h
  · rw [h]
    exact orderly_of_error (.refl b) nofun
  · rw [h]
    exact (orderly_validateField (x.registerFields b) b field).of_registerFields
  · rw [h]
    exact orderly_of_ok (.refl b) (Store.Writes.refl.notify field)
      fun _ _ => List.nodup_singleton field

/-! ### Writing to another store -/

/-- What the operations that may write to another store leave of an object and of that store. -/
structure OrderlyBeside (x : Instance) (proxy : Option Store)
    (outcome : Except Error (Option Message) × Instance × Option Store) : Prop where
  /-- The object stays. -/
  object : outcome.2.1.object = x.object
  /-- Its localizer stays. -/
  localizer : outcome.2.1.localizer = x.localizer
  /-- Its messages change by writes that publish no field twice. -/
  writes : x.store.WritesOnce outcome.2.1.store
  /-- The other store, if there is one, changes by such writes. -/
  proxyWrites : Option.Rel Store.WritesOnce proxy outcome.2.2

variable {proxy : Option Store}

/-- A store that stays as it is, if there is one, changes by no writes. -/
lemma rel_writesOnce_refl (proxy : Option Store) : Option.Rel Store.WritesOnce proxy proxy := by
  cases proxy with
  | none => exact .none
  | some p => exact .some (.refl p)

/-- What stores nothing is orderly. -/
lemma orderlyBeside_self (x : Instance) (proxy : Option Store)
    (result : Except Error (Option Message)) : x.OrderlyBeside proxy (result, x, proxy) :=
  ⟨rfl, rfl, .refl x.store, rel_writesOnce_refl proxy⟩

lemma orderlyBeside_addTo {x' : Instance} {proxy' : Option Store} {m : Message}
    (h : x.addTo proxy m field = .ok (x', proxy')) (result : Except Error (Option Message)) :
    x.OrderlyBeside proxy (result, x', proxy') := by
  cases proxy with
  | none =>
      rw [addTo] at h
      cases hadd : x.store.add m field with
      | error e =>
          rw [hadd] at h
          cases h
      | ok s =>
          rw [hadd] at h
          cases h
          exact ⟨rfl, rfl, (Store.writes_add hadd).2, .none⟩
  | some p =>
      rw [addTo] at h
      cases hadd : p.add m field with
      | error e =>
          rw [hadd] at h
          cases h
      | ok s =>
          rw [hadd] at h
          cases h
          exact ⟨rfl, rfl, .refl x.store, .some (Store.writes_add hadd).2⟩

lemma orderlyBeside_removeFrom (x : Instance) (proxy : Option Store) (m : Message) (field : String)
    (result : Except Error (Option Message)) :
    x.OrderlyBeside proxy (result, x.removeFrom proxy m field) := by
  cases proxy with
  | none => exact ⟨rfl, rfl, (Store.writes_remove x.store m field).2, .none⟩
  | some p => exact ⟨rfl, rfl, .refl x.store, .some (Store.writes_remove p m field).2⟩

/-- What is orderly for the object with its declared fields registered is orderly for the object. -/
lemma OrderlyBeside.of_registerFields
    {outcome : Except Error (Option Message) × Instance × Option Store}
    (h : (x.registerFields b).OrderlyBeside proxy outcome) : x.OrderlyBeside proxy outcome where
  object := h.object
  localizer := h.localizer
  writes := by
    obtain ⟨es, hes, hnd⟩ := h.writes
    exact ⟨[] ++ es, (x.writes_registerFields b).trans hes, hnd⟩
  proxyWrites := h.proxyWrites

lemma orderlyBeside_perform (x : Instance) (b : RuleBook) (proxy : Option Store) (d : RuleDecl)
    (field : String) : x.OrderlyBeside proxy (x.perform b proxy d field) := by
  rw [perform]
  split
  · exact (orderlyBeside_self _ proxy _).of_registerFields
  · exact (orderlyBeside_self _ proxy _).of_registerFields
  · split
    · exact (orderlyBeside_self _ proxy _).of_registerFields
    · exact (orderlyBeside_addTo ‹_› _).of_registerFields

lemma orderlyBeside_delegate (x : Instance) (proxy : Option Store) (check : Instance → Bool)
    (failure : Message) (field : String) :
    x.OrderlyBeside proxy (x.delegate proxy check failure field) := by
  rw [delegate]
  split
  · exact orderlyBeside_self x proxy _
  · split
    · exact orderlyBeside_removeFrom x proxy failure field _
    · split
      · exact orderlyBeside_self x proxy _
      · exact orderlyBeside_addTo ‹_› _

/-- One more rule may make no sense, or have no answer on a field that has rules; neither is the
error of a field without a name. -/
lemma ne_missingFieldName_of_judge {d : RuleDecl} {e : Error}
    (h : x.judge b d field = .error e) : e ≠ .missingFieldName := by
  rw [judge] at h
  split at h
  · cases h
    exact nofun
  · split at h
    · rename_i hcompile
      cases h
      exact (RuleDecl.ofDeclaration_of_compile hcompile).ne_missingFieldName
    · exact (Rule.trouble_of_validate h).ofRule.ne_missingFieldName

/-- A message is added to any field that has a name. -/
lemma addTo_ne_error (x : Instance) (proxy : Option Store) (m : Message) (e : Error)
    (hne : field.isEmpty = false) : x.addTo proxy m field ≠ .error e := by
  cases proxy with
  | none =>
      obtain ⟨t, ht⟩ := x.store.exists_add m hne
      rw [addTo, ht]
      intro h
      cases h
  | some p =>
      obtain ⟨t, ht⟩ := p.exists_add m hne
      rw [addTo, ht]
      intro h
      cases h

/-- One more rule stores nothing unless it reports a message. -/
lemma perform_of_silent {d : RuleDecl}
    (h : ∀ m, (x.registerFields b).judge b d field ≠ .ok (some m)) :
    x.perform b proxy d field
      = ((x.registerFields b).judge b d field, x.registerFields b, proxy) := by
  rw [perform]
  cases hjudge : (x.registerFields b).judge b d field with
  | error e => rfl
  | ok reported =>
      cases reported with
      | none => rfl
      | some m => exact absurd hjudge (h m)

/-- A message that one more rule reports is added. -/
lemma perform_of_report {d : RuleDecl} {m : Message} (proxy : Option Store)
    (hne : field.isEmpty = false)
    (h : (x.registerFields b).judge b d field = .ok (some m)) :
    ∃ y q, (x.registerFields b).addTo proxy m field = .ok (y, q) ∧
      x.perform b proxy d field = (.ok (some m), y, q) := by
  cases hadd : (x.registerFields b).addTo proxy m field with
  | error e => exact absurd hadd (addTo_ne_error _ proxy m e hne)
  | ok added =>
      refine ⟨added.1, added.2, rfl, ?_⟩
      rw [perform]
      simp only [h, hadd]

/-- One more rule reports a message, which is added, or nothing is stored. -/
lemma perform_cases (x : Instance) (b : RuleBook) (proxy : Option Store) (d : RuleDecl)
    (hne : field.isEmpty = false) :
    x.perform b proxy d field
        = ((x.registerFields b).judge b d field, x.registerFields b, proxy) ∨
      ∃ m y q, (x.registerFields b).judge b d field = .ok (some m) ∧
        (x.registerFields b).addTo proxy m field = .ok (y, q) ∧
        x.perform b proxy d field = (.ok (some m), y, q) := by
  by_cases hsilent : ∀ m, (x.registerFields b).judge b d field ≠ .ok (some m)
  · exact .inl (perform_of_silent hsilent)
  · push Not at hsilent
    obtain ⟨m, hm⟩ := hsilent
    obtain ⟨y, q, hadd, hperform⟩ := perform_of_report proxy hne hm
    exact .inr ⟨m, y, q, hm, hadd, hperform⟩

/-- A message is added to the other store, if there is one, and to that of the object otherwise. -/
lemma add_of_addTo {y : Instance} {q : Option Store} {m : Message}
    (h : x.addTo proxy m field = .ok (y, q)) :
    (proxy.getD x.store).add m field = .ok (q.getD y.store) := by
  cases proxy with
  | none =>
      obtain ⟨t, ht, heq⟩ := map_eq_ok_iff.mp h
      cases heq
      exact ht
  | some p =>
      obtain ⟨t, ht, heq⟩ := map_eq_ok_iff.mp h
      cases heq
      exact ht

/-- After an error of one more rule the declared fields are registered, and nothing else has
happened. -/
lemma perform_failed {d : RuleDecl} {e : Error} (hne : field.isEmpty = false)
    (h : (x.perform b proxy d field).1 = .error e) :
    x.perform b proxy d field = (.error e, x.registerFields b, proxy) ∧
      e ≠ .missingFieldName := by
  rcases x.perform_cases b proxy d hne with hsilent | ⟨m, y, q, _, _, hperform⟩
  · rw [hsilent] at h ⊢
    exact ⟨congrArg (·, x.registerFields b, proxy) h, ne_missingFieldName_of_judge h⟩
  · rw [hperform] at h
    cases h

end Instance

end FieldRules
