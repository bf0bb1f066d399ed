/-
What an action leaves of a site.

* `Reply.ofUnit_eq_failed_iff` and the like: what a reply says of an outcome;
* `withBook_of_ok`, `withBook_of_error`, `applying_of_ok`, `applying_of_error`:
  with a book or without one, and `withBook_cases`, `applying_cases`: there is no
  third way;
* `Site.Moves`: the object stays, and its messages and those of the other store
  change by writes that are published, no field twice;
* `moves_of_writesOnce`, `moves_of_orderlyBeside`, `moves_applying`,
  `moves_withBook`: what moves a site so;
* `Action.moves_apply`: every action is such a move.
-/
import FieldRules.Action
import FieldRules.Proofs.Instance.Outcomes
import FieldRules.Proofs.Registry

namespace FieldRules

namespace Reply

lemma ofUnit_eq_done_iff {result : Except Error Unit} : ofUnit result = done ↔ result = .ok () := by
  cases result <;> simp [ofUnit]

lemma ofUnit_eq_failed_iff {result : Except Error Unit} {e : Error} :
    ofUnit result = failed e ↔ result = .error e := by
  cases result <;> simp [ofUnit]

lemma ofReport_eq_failed_iff {result : Except Error (Option Message)} {e : Error} :
    ofReport result = failed e ↔ result = .error e := by
  cases result <;> simp [ofReport]

lemma ofReport_eq_report_iff {result : Except Error (Option Message)} {m : Option Message} :
    ofReport result = .report m ↔ result = .ok m := by
  cases result <;> simp [ofReport]

end Reply

namespace Site

variable {s : Site} {m : Model} {b : RuleBook} {r : Registry} {e : Error}

lemma withBook_of_ok (h : s.registry.getOrBuild m = (.ok b, r))
    (act : RuleBook → Site → Reply × Site) :
    s.withBook m act = act b { s with registry := r } := by
  rw [withBook, h]

lemma withBook_of_error (h : s.registry.getOrBuild m = (.error e, r))
    (act : RuleBook → Site → Reply × Site) : s.withBook m act = (.failed e, s) := by
  rw [withBook, h]
  simp only [Registry.eq_of_getOrBuild_error h]

lemma applying_of_ok (h : s.registry.getOrBuild m = (.ok b, r))
    (op : Instance → RuleBook → Except Error Unit × RuleBook × Instance) :
    s.applying m op
      = (.ofUnit (op s.subject b).1,
          ⟨r.update m.typeName (op s.subject b).2.1, (op s.subject b).2.2, s.proxy⟩) := by
  rw [applying, withBook_of_ok h]

lemma applying_of_error (h : s.registry.getOrBuild m = (.error e, r))
    (op : Instance → RuleBook → Except Error Unit × RuleBook × Instance) :
    s.applying m op = (.failed e, s) := by
  rw [applying, withBook_of_error h]

/-- There is a book to go on with, or the declarations of the model make no sense and nothing
happens. -/
lemma withBook_cases (s : Site) (m : Model) (act : RuleBook → Site → Reply × Site) :
    (∃ e r, s.registry.getOrBuild m = (.error e, r) ∧ s.withBook m act = (.failed e, s)) ∨
      ∃ b r, s.registry.getOrBuild m = (.ok b, r) ∧
        s.withBook m act = act b { s with registry := r } := by
  cases hbook : s.registry.getOrBuild m with
  | mk result r =>
      cases result with
      | error e => exact .inl ⟨e, r, rfl, withBook_of_error hbook act⟩
      | ok b => exact .inr ⟨b, r, rfl, withBook_of_ok hbook act⟩

lemma applying_cases (s : Site) (m : Model)
    (op : Instance → RuleBook → Except Error Unit × RuleBook × Instance) :
    (∃ e r, s.registry.getOrBuild m = (.error e, r) ∧ s.applying m op = (.failed e, s)) ∨
      ∃ b r, s.registry.getOrBuild m = (.ok b, r) ∧
        s.applying m op
          = (.ofUnit (op s.subject b).1,
              ⟨r.update m.typeName (op s.subject b).2.1, (op s.subject b).2.2, s.proxy⟩) :=
  s.withBook_cases m _

/-- The object stays, and its messages and those of the other store change by writes. Those of the
other store publish no field twice. Those of the object publish none twice if none is registered
twice, and if none has two entries in the book that the model is used with. -/
structure Moves (m : Model) (s t : Site) : Prop where
  /-- The object. -/
  object : t.subject.object = s.subject.object
  /-- Its localizer. -/
  localizer : t.subject.localizer = s.subject.localizer
  /-- Its messages. -/
  writes : ∃ es, s.subject.store.Writes es t.subject.store ∧
    (s.subject.store.names.Nodup →
      (∀ b, (s.registry.getOrBuild m).1 = .ok b → b.names.Nodup) → (es.map Event.field).Nodup)
  /-- The other store. -/
  proxyWrites : Option.Rel Store.WritesOnce s.proxy t.proxy

/-- Writes to the messages of the object that publish no field twice are a move. -/
lemma moves_of_writesOnce {store : Store} (h : s.subject.store.WritesOnce store) (r : Registry) :
    s.Moves m ⟨r, { s.subject with store := store }, s.proxy⟩ where
  object := rfl
  localizer := rfl
  writes := by
    obtain ⟨es, hes, hnd⟩ := h
    exact ⟨es, hes, fun _ _ => hnd⟩
  proxyWrites := Instance.rel_writesOnce_refl s.proxy

lemma Moves.refl (m : Model) (s : Site) : s.Moves m s :=
  moves_of_writesOnce (.refl s.subject.store) s.registry

/-- An operation on the object that may write to the other store is a move. -/
lemma moves_of_orderlyBeside {outcome : Except Error (Option Message) × Instance × Option Store}
    (h : s.subject.OrderlyBeside s.proxy outcome) (r : Registry) :
    s.Moves m ⟨r, outcome.2.1, outcome.2.2⟩ where
  object := h.object
  localizer := h.localizer
  writes := by
    obtain ⟨es, hes, hnd⟩ := h.writes
    exact ⟨es, hes, fun _ _ => hnd⟩
  proxyWrites := h.proxyWrites

/-- An operation that applies the rules of a book is a move. -/
lemma moves_applying (s : Site) (m : Model)
    {op : Instance → RuleBook → Except Error Unit × RuleBook × Instance}
    (hop : ∀ x b, Instance.Orderly x b (op x b)) : s.Moves m (s.applying m op).2 := by
  rcases s.applying_cases m op with ⟨e, r, _, happly⟩ | ⟨b, r, hbook, happly⟩
  · rw [happly]
    exact .refl m s
  · rw [happly]
    have h := hop s.subject b
    obtain ⟨es, hes, hnd⟩ := h.writes
    have hfound : (s.registry.getOrBuild m).1 = .ok b := by rw [hbook]
    exact ⟨h.object, h.localizer, ⟨es, hes, fun hs hbooks => hnd hs (hbooks b hfound)⟩,
      Instance.rel_writesOnce_refl s.proxy⟩

/-- What goes on with a book is a move if it is one with every book. -/
lemma moves_withBook (s : Site) (m : Model) {act : RuleBook → Site → Reply × Site}
    (hact : ∀ b r, s.Moves m (act b { s with registry := r }).2) :
    s.Moves m (s.withBook m act).2 := by
  rcases s.withBook_cases m act with ⟨e, r, _, happly⟩ | ⟨b, r, _, happly⟩
  · rw [happly]
    exact .refl m s
  · rw [happly]
    exact hact b r

end Site

/-- Every action changes messages by writes alone. -/
lemma Action.moves_apply (m : Model) (s : Site) (a : Action) : s.Moves m (a.apply m s).2 := by
  cases a with
  | registerRuleFields =>
      refine s.moves_withBook m fun b r => ?_
      exact Site.moves_of_writesOnce ⟨[], s.subject.writes_registerFields b, List.nodup_nil⟩ r
  | validateAll => exact s.moves_applying m Instance.orderly_validateAll
  | validateField field => exact s.moves_applying m fun x b => x.orderly_validateField b field
  | refresh field =>
      rw [apply]
      split
      · exact .refl m s
      · exact s.moves_applying m fun x b => x.orderly_refresh b field
  | perform rule field =>
      rw [apply]
      split
      · exact .refl m s
      · refine s.moves_withBook m fun b r => ?_
        exact Site.moves_of_orderlyBeside (s.subject.orderlyBeside_perform b s.proxy rule field) r
  | delegate check failure field =>
      exact Site.moves_of_orderlyBeside
        (s.subject.orderlyBeside_delegate s.proxy check failure field) s.registry
  | registerField field =>
      exact Site.moves_of_writesOnce ⟨[], Store.Writes.refl.register field, List.nodup_nil⟩ _
  | add msg field =>
      rw [apply]
      split
      · exact .refl m s
      · rename_i store hadd
        exact Site.moves_of_writesOnce (Store.writes_add hadd).2 _
  | remove msg field => exact Site.moves_of_writesOnce (Store.writes_remove _ msg field).2 _
  | clearField field => exact Site.moves_of_writesOnce (Store.writesOnce_clearField _ field) _
  | clear =>
      refine ⟨rfl, rfl, ⟨_, Store.writes_clear s.subject.store, fun hs _ => ?_⟩,
        Instance.rel_writesOnce_refl s.proxy⟩
      rw [List.map_map]
      exact (List.map_id _).symm ▸ hs
  | notify field =>
      exact Site.moves_of_writesOnce
        ⟨_, Store.Writes.refl.notify field, List.nodup_singleton field⟩ _
  | fieldMessages =>
      exact s.moves_withBook m fun b r => Site.moves_of_writesOnce (.refl s.subject.store) r

end FieldRules
