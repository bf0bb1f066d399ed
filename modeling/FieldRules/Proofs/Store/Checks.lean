/-
Stores that take the outcomes of checks.

* `Use.reply`: the reply to a call in which a store takes part;
* `Delegation`: a check of an object that is no rule, made so that a store takes its
  outcome, be it that of the object or another one;
* `Store.Records`: what a verdict on a field makes of a store;
* `Delegation.records_apply`: this is what a check does, and its reply is the message
  if it failed;
* `Delegation.verdicts`, `Store.afterChecks`: the verdicts of checks that are made one
  after the other, and the store after them;
* `messages_afterChecks`: the field has the list that follows these verdicts;
* `checks_are_recorded`: what can be read off the store after all checks.
-/
import FieldRules.Proofs.Message.Verdicts
import FieldRules.Proofs.Site.Proxy

namespace FieldRules

/-- The reply to the call. -/
def Use.reply : Use → Store → Reply
  | own m site a, s => (a.apply m (site.withStore fun _ => s)).1
  | proxy m site a, s => (a.apply m { site with proxy := some s }).1

/-- A check of an object that is no rule, and whose outcome a store takes. -/
structure Delegation where
  /-- The model of the object. -/
  model : Model
  /-- The site of the check, without the store that takes the outcome. -/
  site : Site
  /-- The check. -/
  passes : Instance → Bool
  /-- What there is to say if it fails. -/
  failure : Message
  /-- Whether the store takes the outcome in place of that of the object. -/
  beside : Bool

namespace Delegation

/-- The call of the check. -/
def use (d : Delegation) (field : String) : Use :=
  if d.beside then .proxy d.model d.site (.delegate d.passes d.failure field)
  else .own d.model { d.site with proxy := none } (.delegate d.passes d.failure field)

/-- The object that is checked: its messages may be those of the store. -/
def subject (d : Delegation) (t : Store) : Instance :=
  if d.beside then d.site.subject else { d.site.subject with store := t }

/-- What the check comes to. -/
def verdict (d : Delegation) (t : Store) : Verdict :=
  ⟨d.passes (d.subject t), d.failure⟩

/-- What checks come to that are made one after the other. -/
def verdicts (field : String) : Store → List Delegation → List Verdict
  | _, [] => []
  | t, d :: rest => d.verdict t :: verdicts field ((d.use field).apply t) rest

end Delegation

/-- What is reported of a verdict. -/
def Verdict.report (v : Verdict) : Option Message :=
  if v.passed then none else some v.failure

namespace Store

variable {t q : Store} {failure : Message} {field : String} {ds : List Delegation}

/-- The store after checks, one after the other. -/
def afterChecks (t : Store) (field : String) (ds : List Delegation) : Store :=
  t.after (ds.map (Delegation.use · field))

/-- The store `q` is what a verdict on the field makes of `t`. -/
structure Records (t : Store) (field : String) (v : Verdict) (q : Store) : Prop where
  /-- The messages of the field. -/
  messages : q.messages field = v.record (t.messages field)
  /-- The other fields, and the events. -/
  changes : t.ChangesAtMost field q
  /-- A field that is not registered. -/
  unregistered : v.passed = true → t.isRegistered field = false → q.isRegistered field = false

/-- A message is removed by a check that passes. -/
lemma records_remove (t : Store) (failure : Message) (field : String) :
    t.Records field ⟨true, failure⟩ (t.remove failure field).2 where
  messages := by
    rw [remove, Verdict.record, if_pos rfl]
    split
    · rw [messages_commit_self]
    · rename_i hnone
      rw [List.eraseP_of_forall_not]
      simpa [hasText] using hnone
  changes := changesAtMost_remove t failure field
  unregistered := by
    intro _ hreg
    rw [remove, messages_of_not_mem (isRegistered_eq_false_iff.mp hreg)]
    exact hreg

/-- A message is added by a check that fails. -/
lemma records_add (h : t.add failure field = .ok q) : t.Records field ⟨false, failure⟩ q where
  messages := by
    rw [Verdict.record, if_neg Bool.false_ne_true]
    exact messages_of_add h
  changes := changesAtMost_add h
  unregistered := nofun

end Store

namespace Delegation

variable {d : Delegation} {t q : Store} {field : String}

/-- A check that passes has nothing to say, and removes its message. -/
lemma apply_of_passed (hne : field.isEmpty = false) (h : d.passes (d.subject t) = true) :
    (d.use field).reply t = .report none ∧
      (d.use field).apply t = (t.remove d.failure field).2 := by
  obtain ⟨m, site, passes, failure, beside⟩ := d
  cases beside with
  | true =>
      have hcheck : passes site.subject = true := h
      simp [use, Use.reply, Use.apply, Action.apply, Instance.delegate, Instance.removeFrom,
        Reply.ofReport, hne, hcheck]
  | false =>
      have hcheck : passes { site.subject with store := t } = true := h
      simp [use, Use.reply, Use.apply, Action.apply, Instance.delegate, Instance.removeFrom,
        Site.withStore, Reply.ofReport, hne, hcheck]

/-- A check that fails says so, and adds its message. -/
lemma apply_of_failed (hne : field.isEmpty = false) (h : d.passes (d.subject t) = false)
    (hadd : t.add d.failure field = .ok q) :
    (d.use field).reply t = .report (some d.failure) ∧ (d.use field).apply t = q := by
  obtain ⟨m, site, passes, failure, beside⟩ := d
  have hstore : t.add failure field = .ok q := hadd
  cases beside with
  | true =>
      have hcheck : passes site.subject = false := h
      simp [use, Use.reply, Use.apply, Action.apply, Instance.delegate, Instance.addTo,
        Reply.ofReport, Except.map, hne, hcheck, hstore]
  | false =>
      have hcheck : passes { site.subject with store := t } = false := h
      simp [use, Use.reply, Use.apply, Action.apply, Instance.delegate, Instance.addTo,
        Site.withStore, Reply.ofReport, Except.map, hne, hcheck, hstore]

/-- A check replies what its verdict reports, and the store records the verdict. -/
lemma records_apply (d : Delegation) (t : Store) (hne : field.isEmpty = false) :
    (d.use field).reply t = .report (d.verdict t).report ∧
      t.Records field (d.verdict t) ((d.use field).apply t) := by
  cases hcheck : d.passes (d.subject t) with
  | true =>
      obtain ⟨hreply, happly⟩ := apply_of_passed hne hcheck
      rw [hreply, happly, verdict, hcheck]
      exact ⟨rfl, t.records_remove d.failure field⟩
  | false =>
      obtain ⟨q, hadd⟩ := t.exists_add d.failure hne
      obtain ⟨hreply, happly⟩ := apply_of_failed hne hcheck hadd
      rw [hreply, happly, verdict, hcheck]
      exact ⟨rfl, Store.records_add hadd⟩

/-! ### Many checks -/

/-- The verdicts of the first checks are the first verdicts. -/
lemma verdicts_take (t : Store) (ds : List Delegation) (n : Nat) :
    verdicts field t (ds.take n) = (verdicts field t ds).take n := by
  induction ds generalizing t n with
  | nil => rw [List.take_nil, verdicts, List.take_nil]
  | cons d rest ih =>
      cases n with
      | zero => rw [List.take_zero, List.take_zero, verdicts]
      | succ n => rw [List.take_succ_cons, verdicts, verdicts, List.take_succ_cons, ih]

end Delegation

namespace Store

open Delegation

lemma afterChecks_cons (t : Store) (field : String) (d : Delegation) (ds : List Delegation) :
    t.afterChecks field (d :: ds) = ((d.use field).apply t).afterChecks field ds := rfl

lemma afterChecks_append_singleton (t : Store) (field : String) (ds : List Delegation)
    (d : Delegation) :
    t.afterChecks field (ds ++ [d]) = (d.use field).apply (t.afterChecks field ds) := by
  rw [afterChecks, after, List.map_append, List.foldl_append]
  rfl

/-- After checks the field has the list that follows their verdicts. -/
lemma messages_afterChecks (t : Store) (hne : field.isEmpty = false) (ds : List Delegation) :
    (t.afterChecks field ds).messages field
      = recordAll (t.messages field) (verdicts field t ds) := by
  induction ds generalizing t with
  | nil => rfl
  | cons d rest ih =>
      rw [afterChecks_cons, ih, (d.records_apply t hne).2.messages]
      rfl

/-- A field that is not registered is not registered by checks that pass. -/
lemma unregistered_afterChecks (hne : field.isEmpty = false)
    (hpassed : ∀ v ∈ verdicts field t ds, v.passed = true) (hreg : t.isRegistered field = false) :
    (t.afterChecks field ds).isRegistered field = false := by
  induction ds generalizing t with
  | nil => exact hreg
  | cons d rest ih =>
      have hfirst : (d.verdict t).passed = true := hpassed _ List.mem_cons_self
      exact ih (fun v hv => hpassed v (List.mem_cons_of_mem _ hv))
        ((d.records_apply t hne).2.unregistered hfirst hreg)

/-- A text stays in the list of the field if the field has it before the checks and after each of
them. -/
lemma staysIn_verdicts (t : Store) (hne : field.isEmpty = false) (ds : List Delegation)
    (text : String) :
    StaysIn (t.messages field) (verdicts field t ds) text ↔
      ∀ front, front <+: ds → hasText ((t.afterChecks field front).messages field) text = true := by
  constructor
  · intro h front hfront
    rw [messages_afterChecks t hne, List.prefix_iff_eq_take.mp hfront, verdicts_take]
    exact h _ (List.take_prefix _ _)
  · intro h front hfront
    rw [List.prefix_iff_eq_take.mp hfront, ← verdicts_take, ← messages_afterChecks t hne]
    exact h _ (List.take_prefix _ ds)

/-- **Checks are recorded**: whatever checks are made one after the other whose outcomes a store
takes on a field with a name, in the end the field has the texts whose last check failed, and of
those that were not checked the ones that it had. No text occurs twice in it; those that were there
at all times stand in their old order, and what was added stands behind them. Each check replies its
message if it failed, and nothing otherwise; one event is published if it changed the messages of
the field, and none otherwise, and no other field is touched. Checks that pass do not register the
field. A check on a field without a name has no answer and changes nothing. -/
theorem checks_are_recorded (ht : t.Reachable) (hne : field.isEmpty = false)
    (ds : List Delegation) :
    (∀ text, hasText ((t.afterChecks field ds).messages field) text = true ↔
        lastVerdict text (verdicts field t ds) = some false ∨
          lastVerdict text (verdicts field t ds) = none ∧
            hasText (t.messages field) text = true) ∧
      DistinctTexts ((t.afterChecks field ds).messages field) ∧
      AddsBehind
        (fun text => ∀ front, front <+: ds →
          hasText ((t.afterChecks field front).messages field) text = true)
        (t.messages field) ((t.afterChecks field ds).messages field) ∧
      (∀ front d back, ds = front ++ d :: back →
        (d.use field).reply (t.afterChecks field front)
            = .report (if d.passes (d.subject (t.afterChecks field front)) then none
              else some d.failure) ∧
          (t.afterChecks field front).ChangesAtMost field (t.afterChecks field (front ++ [d]))) ∧
      ((∀ v ∈ verdicts field t ds, v.passed = true) → t.isRegistered field = false →
        (t.afterChecks field ds).isRegistered field = false) ∧
      ∀ m s check failure,
        (Action.delegate check failure "").apply m s = (.failed .missingFieldName, s) := by
  have hdistinct := ht.distinctTexts field
  have hlist := t.messages_afterChecks hne ds
  refine ⟨fun text => ?_, ?_, ?_, fun front d back _ => ?_, unregistered_afterChecks hne, ?_⟩
  · rw [hlist, hdistinct.hasText_recordAll]
    cases lastVerdict text (verdicts field t ds) with
    | none => simp
    | some passed => simp
  · rw [hlist]
    exact hdistinct.recordAll _
  · rw [hlist]
    exact (hdistinct.addsBehind_recordAll _).congr fun text =>
      (t.staysIn_verdicts hne ds text).symm
  · obtain ⟨hreply, hrecords⟩ := d.records_apply (t.afterChecks field front) hne
    rw [afterChecks_append_singleton]
    exact ⟨hreply, hrecords.changes⟩
  · exact fun _ _ _ _ => rfl

/-! ### The note of an order -/

/-- A check whose outcome is stored with the note of an order. -/
def ofNote (beside : Bool) (passes : Instance → Bool) (text : String) : Delegation :=
  ⟨orders, order sevenUnits, passes, .warning text, beside⟩

/-- There is something wrong with the order, so that it is open; another order finds the note odd,
and the order itself does not. -/
def noteChecks : List Delegation :=
  [ofNote false (fun x => x.store.isValid) "open", ofNote true (fun _ => false) "odd",
    ofNote false (fun _ => true) "odd"]

/-- The order is open in the end, and its note is not odd any more. The second check says that it
is, and publishes nothing, as this was known. -/
theorem note_follows_its_checks :
    (order sevenUnits).subject.store.Reachable ∧ "Note".isEmpty = false ∧
      hasText (((order sevenUnits).subject.store.afterChecks "Note" noteChecks).messages "Note")
        "open" = true ∧
      hasText (((order sevenUnits).subject.store.afterChecks "Note" noteChecks).messages "Note")
        "odd" = false ∧
      ((ofNote true (fun _ => false) "odd").use "Note").reply
          ((order sevenUnits).subject.store.afterChecks "Note" (noteChecks.take 1))
        = .report (some (.warning "odd")) ∧
      ((order sevenUnits).subject.store.afterChecks "Note" (noteChecks.take 2)).published
        = ((order sevenUnits).subject.store.afterChecks "Note" (noteChecks.take 1)).published := by
  have hreach := (reachable_order sevenUnits).store
  have hname : "Note".isEmpty = false := rfl
  obtain ⟨hpresent, -, -, hcalls, -, -⟩ := checks_are_recorded hreach hname noteChecks
  obtain ⟨hreply, hchanges⟩ := hcalls (noteChecks.take 1) _ (noteChecks.drop 2) rfl
  have hopen := (hpresent "open").mpr (.inl rfl)
  have hodd : ¬hasText (((order sevenUnits).subject.store.afterChecks "Note" noteChecks).messages
      "Note") "odd" = true := by
    rw [hpresent]
    rintro (hfailed | ⟨hnone, -⟩)
    · cases hfailed
    · cases hnone
  exact ⟨hreach, hname, hopen, by simpa using hodd, hreply, hchanges.fires.1 rfl⟩

end Store

end FieldRules
