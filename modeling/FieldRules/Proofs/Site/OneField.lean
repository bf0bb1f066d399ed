/-
What is done to one field.

* `Store.PublishesOnce`: one event is published, of one field, and no other field
  is touched; `publishesOnce_commit`, `publishesOnce_notify`: so it is when a
  field gets its messages, and when what it has is published;
* `Instance.refresh_of_messages`, `refresh_of_quiet`, `refresh_of_unknown`: a field
  that has messages and rules is validated, any other one that is known is left
  as it is, and one that nobody knows is an error;
* `publishesOnce_validateField`, `publishesOnce_refresh`: both publish the field
  once if they succeed;
* `validateField_unknown_iff`, `refresh_unknown_iff`: the fields that nobody knows;
* `single_field_operations_are_framed`: what that means for a site.
-/
import FieldRules.Proofs.Site.Books
import FieldRules.Proofs.Site.Reachable
import FieldRules.Proofs.Site.Validation

namespace FieldRules

namespace Store

variable {s t : Store} {field : String}

/-- The second store has published one event more, with the messages that the field has in it, and
the other fields have the same messages in both. -/
structure PublishesOnce (field : String) (s t : Store) : Prop where
  /-- The event. -/
  published : t.published = s.published ++ [⟨field, t.messages field⟩]
  /-- The other fields. -/
  others : ∀ f, f ≠ field → t.messages f = s.messages f

lemma publishesOnce_commit (s : Store) (field : String) (ms : List Message) :
    s.PublishesOnce field (s.commit field ms) where
  published := by rw [published_commit, messages_commit_self]
  others := fun _ hne => messages_commit_of_ne s hne ms

lemma publishesOnce_notify (s : Store) (field : String) :
    s.PublishesOnce field (s.notify field) :=
  ⟨rfl, fun _ _ => rfl⟩

/-- Fields that are registered before an event is published make no difference to it. -/
lemma PublishesOnce.of_registerAll {fields : List String}
    (h : (s.registerAll fields).PublishesOnce field t) : s.PublishesOnce field t where
  published := by rw [h.published, published_registerAll]
  others := fun f hne => by rw [h.others f hne, messages_registerAll]

end Store

namespace Instance

variable {x : Instance} {b : RuleBook} {field : String}

/-- Once the declared fields are registered, a field is known if it was registered or has rules. -/
lemma isRegistered_registerFields (x : Instance) (b : RuleBook) (field : String) :
    (x.registerFields b).store.isRegistered field = true ↔
      field ∈ x.store.names ∨ field ∈ b.names := by
  rw [Store.isRegistered_iff]
  exact mem_names_registerFields

/-! ### Refreshing -/

/-- It makes no difference to the validation of a field whether the declared fields are registered
before. -/
lemma validateField_registerFields (x : Instance) (b : RuleBook) (field : String) :
    (x.registerFields b).validateField b field = x.validateField b field := by
  rw [validateField, validateField, validateAll, validateAll, registerFields_registerFields]

/-- A field that has messages and rules is validated. -/
lemma refresh_of_messages (hfield : field ∈ b.names) (hms : x.store.messages field ≠ []) :
    x.refresh b field = x.validateField b field := by
  have hreg : (x.registerFields b).store.isRegistered field = true :=
    (isRegistered_registerFields x b field).mpr (.inr hfield)
  have hempty : ((x.registerFields b).store.messages field).isEmpty = false := by
    rw [messages_registerFields]
    simpa using hms
  rw [refresh]
  simp only [hreg, hempty, RuleBook.isSome_entry?_iff.mpr hfield]
  exact validateField_registerFields x b field

/-- What a field has is published if it has no messages or no rules, whatever its rules would
report. -/
lemma refresh_of_quiet (hknown : field ∈ x.store.names ∨ field ∈ b.names)
    (hquiet : field ∉ b.names ∨ x.store.messages field = []) :
    x.refresh b field
      = (.ok (), b, { x with store := (x.registerFields b).store.notify field }) := by
  have hreg := (isRegistered_registerFields x b field).mpr hknown
  have hidle : (!((x.registerFields b).store.messages field).isEmpty
      && (b.entry? field).isSome) = false := by
    rw [messages_registerFields, Bool.and_eq_false_iff]
    rcases hquiet with hnot | hnone
    · exact .inr (Bool.eq_false_iff.mpr (mt RuleBook.isSome_entry?_iff.mp hnot))
    · exact .inl (by rw [hnone]; rfl)
  rw [refresh]
  simp only [hreg, hidle]
  rfl

/-- A field that nobody knows is an error. -/
lemma refresh_of_unknown (hrules : field ∉ b.names) (hreg : field ∉ x.store.names) :
    x.refresh b field = (.error (.unknownField field b.typeName), b, x.registerFields b) := by
  have hnone : (x.registerFields b).store.isRegistered field = false :=
    Bool.eq_false_iff.mpr fun h =>
      ((isRegistered_registerFields x b field).mp h).elim hreg hrules
  rw [refresh]
  simp only [hnone]
  rfl

/-! ### One event -/

/-- A field that is validated is published once. -/
lemma publishesOnce_validateField (hne : field.isEmpty = false)
    (h : (x.validateField b field).1 = .ok ()) :
    x.store.PublishesOnce field (x.validateField b field).2.2.store := by
  cases he : b.entry? field with
  | none =>
      cases hreg : (x.registerFields b).store.isRegistered field with
      | false =>
          rw [validateField_of_unknown hne he hreg] at h
          cases h
      | true =>
          rw [validateField_of_stray hne he hreg]
          exact (Store.publishesOnce_commit _ field []).of_registerAll
  | some e =>
      cases heval : (e.evaluate (x.registerFields b) x.localizer).1 with
      | error err =>
          rw [validateField_of_error hne he heval] at h
          cases h
      | ok ms =>
          rw [validateField_of_ok hne he heval]
          exact (Store.publishesOnce_commit _ field ms).of_registerAll

/-- A field that is refreshed is published once, be it validated or not. -/
lemma publishesOnce_refresh (hne : field.isEmpty = false) (h : (x.refresh b field).1 = .ok ()) :
    x.store.PublishesOnce field (x.refresh b field).2.2.store := by
  rcases refresh_cases x b field with ⟨_, hunknown⟩ | hvalidated | hquiet
  · rw [hunknown] at h
    cases h
  · rw [hvalidated, validateField_registerFields] at h ⊢
    exact publishesOnce_validateField hne h
  · rw [hquiet]
    exact (Store.publishesOnce_notify _ field).of_registerAll

/-! ### Fields that nobody knows -/

/-- A field is unknown if and only if it has no rules and is not registered: rules end in other
errors. -/
lemma validateField_unknown_iff (hne : field.isEmpty = false) {f typeName : String} :
    (x.validateField b field).1 = .error (.unknownField f typeName) ↔
      f = field ∧ typeName = b.typeName ∧ field ∉ b.names ∧ field ∉ x.store.names := by
  cases he : b.entry? field with
  | none =>
      have hrules : field ∉ b.names := RuleBook.entry?_eq_none_iff.mp he
      cases hreg : (x.registerFields b).store.isRegistered field with
      | false =>
          have hnot : field ∉ x.store.names := fun hmem => Bool.eq_false_iff.mp hreg
            ((isRegistered_registerFields x b field).mpr (.inl hmem))
          rw [validateField_of_unknown hne he hreg]
          simp [hrules, hnot, eq_comm]
      | true =>
          have hmem : field ∈ x.store.names :=
            ((isRegistered_registerFields x b field).mp hreg).resolve_right hrules
          rw [validateField_of_stray hne he hreg]
          simp [hmem]
  | some e =>
      have hrules : field ∈ b.names := RuleBook.mem_names_of_entry? he
      cases heval : (e.evaluate (x.registerFields b) x.localizer).1 with
      | error err =>
          have hcause := RuleBook.Entry.ofRule_of_evaluate heval
          rw [validateField_of_error hne he heval]
          simp [hrules, hcause.ne_unknownField f typeName]
      | ok ms =>
          rw [validateField_of_ok hne he heval]
          simp [hrules]

/-- A field is unknown when it is refreshed if and only if it has no rules and is not registered. -/
lemma refresh_unknown_iff (hne : field.isEmpty = false) {f typeName : String} :
    (x.refresh b field).1 = .error (.unknownField f typeName) ↔
      f = field ∧ typeName = b.typeName ∧ field ∉ b.names ∧ field ∉ x.store.names := by
  by_cases hrules : field ∈ b.names
  · by_cases hms : x.store.messages field = []
    · rw [refresh_of_quiet (.inr hrules) (.inr hms)]
      simp [hrules]
    · rw [refresh_of_messages hrules hms]
      exact validateField_unknown_iff hne
  · by_cases hreg : field ∈ x.store.names
    · rw [refresh_of_quiet (.inl hreg) (.inl hrules)]
      simp [hreg]
    · rw [refresh_of_unknown hrules hreg]
      simp [hrules, hreg, eq_comm]

end Instance

variable {m : Model} {s : Site} {b : RuleBook} {field : String}

/-- A field is refreshed with the book of the model. -/
lemma Site.apply_refresh (hne : field.isEmpty = false)
    (hbook : (s.registry.getOrBuild m).1 = .ok b) :
    (Action.refresh field).apply m s
      = (.ofUnit (s.subject.refresh b field).1,
          ⟨(s.registry.getOrBuild m).2.update m.typeName (s.subject.refresh b field).2.1,
            (s.subject.refresh b field).2.2, s.proxy⟩) := by
  rw [Action.apply, hne, if_neg Bool.false_ne_true]
  exact applying_of_ok (Prod.ext hbook rfl) fun x b => x.refresh b field

/-- **One field, one event**: to validate a field or to refresh it publishes, if it succeeds,
exactly one event, with the messages that the field has in the end, and leaves the messages of all
other fields alone. To refresh a field that has rules and messages is to validate it, in the reply
and in all that is left behind; any other field that is known is refreshed without a change to any
messages, whatever its rules would report now. To validate a registered field without rules removes
its messages, and a field is unknown to either if and only if it has no rules and is not
registered. -/
theorem single_field_operations_are_framed (hne : field.isEmpty = false) {v r : Reply × Site}
    (hv : v = (Action.validateField field).apply m s) (hr : r = (Action.refresh field).apply m s) :
    (v.1 = .done → s.subject.store.PublishesOnce field v.2.subject.store) ∧
      (r.1 = .done → s.subject.store.PublishesOnce field r.2.subject.store) ∧
      ∀ b, (s.registry.getOrBuild m).1 = .ok b →
        (field ∈ b.names → s.subject.store.messages field ≠ [] → r = v) ∧
        (field ∉ b.names ∨ s.subject.store.messages field = [] →
          (∀ f, r.2.subject.store.messages f = s.subject.store.messages f) ∧
            (field ∈ s.subject.store.names ∨ field ∈ b.names → r.1 = .done)) ∧
        (field ∉ b.names → field ∈ s.subject.store.names →
          v.1 = .done ∧ v.2.subject.store.messages field = []) ∧
        ∀ f typeName,
          (v.1 = .failed (.unknownField f typeName) ↔
            f = field ∧ typeName = b.typeName ∧ field ∉ b.names ∧
              field ∉ s.subject.store.names) ∧
          (r.1 = .failed (.unknownField f typeName) ↔
            f = field ∧ typeName = b.typeName ∧ field ∉ b.names ∧
              field ∉ s.subject.store.names) := by
  subst hv hr
  cases hfound : (s.registry.getOrBuild m).1 with
  | error e =>
      have hneeds : (Action.refresh field).needsBook = true := by simp [Action.needsBook, hne]
      rw [Action.apply_of_getOrBuild_error rfl hfound,
        Action.apply_of_getOrBuild_error hneeds hfound]
      refine ⟨fun h => ?_, fun h => ?_, fun b hb => ?_⟩
      · cases h
      · cases h
      · cases hb
  | ok b =>
      rw [Site.apply_validateField hfound, Site.apply_refresh hne hfound]
      simp only [Reply.ofUnit_eq_done_iff, Reply.ofUnit_eq_failed_iff]
      refine ⟨Instance.publishesOnce_validateField hne, Instance.publishesOnce_refresh hne, ?_⟩
      rintro b' ⟨⟩
      refine ⟨fun hrules hms => ?_, fun hquiet => ⟨fun f => ?_, fun hknown => ?_⟩,
        fun hrules hreg => ?_, fun f typeName => ⟨Instance.validateField_unknown_iff hne,
          Instance.refresh_unknown_iff hne⟩⟩
      · rw [Instance.refresh_of_messages hrules hms]
      · by_cases hknown : field ∈ s.subject.store.names ∨ field ∈ b.names
        · rw [Instance.refresh_of_quiet hknown hquiet]
          exact Instance.messages_registerFields s.subject b f
        · push Not at hknown
          rw [Instance.refresh_of_unknown hknown.2 hknown.1]
          exact Instance.messages_registerFields s.subject b f
      · rw [Instance.refresh_of_quiet hknown hquiet]
      · have hstray := Instance.validateField_of_stray hne (RuleBook.entry?_eq_none_iff.mpr hrules)
          ((Instance.isRegistered_registerFields s.subject b field).mpr (.inl hreg))
        rw [hstray]
        exact ⟨rfl, Store.messages_commit_self _ field []⟩

/-- The price of an order that has none cannot be compared, but it has no message, and so it is
refreshed all the same: no message comes of it. -/
theorem refresh_frames_price_of_order :
    "Price".isEmpty = false ∧
      ((Action.validateField "Price").apply orders (order .null)).1
        = .failed (.typeMismatch "Price" "number" "null") ∧
      ((Action.refresh "Price").apply orders (order .null)).1 = .done ∧
      (order .null).subject.store.PublishesOnce "Price"
        ((Action.refresh "Price").apply orders (order .null)).2.subject.store ∧
      ∀ f, ((Action.refresh "Price").apply orders (order .null)).2.subject.store.messages f
        = (order .null).subject.store.messages f := by
  have hne : "Price".isEmpty = false := by decide
  have hdone : ((Action.refresh "Price").apply orders (order .null)).1 = .done := rfl
  obtain ⟨_, hevent, hbook⟩ :=
    single_field_operations_are_framed (m := orders) (s := order .null) hne rfl rfl
  obtain ⟨_, hquiet, _⟩ := hbook ordersBook (getOrBuild_order .null)
  exact ⟨hne, rfl, hdone, hevent hdone, (hquiet (.inr rfl)).1⟩

end FieldRules
