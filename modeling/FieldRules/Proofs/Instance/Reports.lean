/-
What the rules of a book report of an object, and what is stored of it.

* `Instance.report`: what the rules of one field report, and `exists_verdicts`:
  the messages of the rules in order, and of those with one text the first;
* `report_congr`: it depends on the object and its localizer, not on messages,
  if the handlers of the rules do;
* `validateAll_ok_iff`, `validateAll_error_iff`, `names_validateAll`,
  `messages_validateAll`, `published_validateAll`, `book_validateAll`: all rules
  at once;
* `validateField_of_report_ok`, `validateField_ok_iff`, `validateField_error_iff`:
  those of one field.
-/
import FieldRules.Proofs.Instance.Outcomes
import FieldRules.Proofs.Store.Results

namespace FieldRules

namespace Instance

/-- What the rules of a field report of the object. -/
def report (x : Instance) (e : RuleBook.Entry) : Except Error (List Message) :=
  (e.evaluate x x.localizer).1

variable {x : Instance} {b : RuleBook} {e : RuleBook.Entry}

/-- What is reported are the messages of the rules in order, of those with one text the first. -/
lemma exists_verdicts {ms : List Message} (h : x.report e = .ok ms) :
    ∃ verdicts, List.Forall₂ (fun (r : Rule) v => r.validate e.field x x.localizer = .ok v)
        e.rules verdicts ∧
      ms = verdicts.reduceOption.eraseDupsBy Message.sameText := by
  rw [report, RuleBook.Entry.fst_evaluate] at h
  cases hverdicts : e.verdicts x x.localizer with
  | error err =>
      rw [hverdicts] at h
      cases h
  | ok verdicts =>
      rw [hverdicts] at h
      exact ⟨verdicts, mapM_eq_ok_iff.mp hverdicts, (Except.ok.inj h).symm⟩

/-- What is reported depends on the object and its localizer, if the handlers of the rules look at
the object alone. -/
lemma report_congr (hb : b.FieldsOnly) (he : e ∈ b.entries) {y : Instance}
    (hobject : x.object = y.object) (hlocalizer : x.localizer = y.localizer) :
    x.report e = y.report e := by
  rw [report, report, hlocalizer]
  exact RuleBook.Entry.fst_evaluate_congr (hb e he) hobject y.localizer

/-- What is reported does not depend on whether the declared fields are registered, if the handlers
of the rules look at the object alone. -/
lemma report_registerFields (hb : b.FieldsOnly) (he : e ∈ b.entries) :
    (x.registerFields b).report e = x.report e :=
  report_congr hb he rfl rfl

lemma names_registerFields (hx : x.store.names.Nodup) (b : RuleBook) :
    (x.registerFields b).store.names.Nodup :=
  (x.writes_registerFields b).nodup_names hx

/-! ### All rules -/

/-- All rules have an answer if and only if those of each field have one. -/
lemma validateAll_ok_iff :
    (x.validateAll b).1 = .ok () ↔
      ∀ e ∈ b.entries, ∃ ms, (x.registerFields b).report e = .ok ms := by
  cases heval : (b.evaluate (x.registerFields b) x.localizer).1 with
  | error err =>
      rw [validateAll_of_error heval]
      obtain ⟨front, e, back, hsplit, _, he⟩ := RuleBook.evaluate_eq_error_iff.mp heval
      refine ⟨fun h => (by cases h), fun h => ?_⟩
      have hmem : e ∈ b.entries := by
        rw [hsplit]
        exact List.mem_append_right front List.mem_cons_self
      obtain ⟨ms, hms⟩ := h e hmem
      have herror : (x.registerFields b).report e = .error err := he
      rw [hms] at herror
      cases herror
  | ok results =>
      rw [validateAll_of_ok heval]
      refine ⟨fun _ e he => ?_, fun _ => rfl⟩
      obtain ⟨r, _, hr, _⟩ := exists_right_of_forall₂ (RuleBook.evaluate_eq_ok_iff.mp heval) he
      exact ⟨r.2, hr⟩

/-- All rules together end in the error of the first field that has one. -/
lemma validateAll_error_iff {err : Error} :
    (x.validateAll b).1 = .error err ↔
      ∃ front e back, b.entries = front ++ e :: back ∧
        (∀ e' ∈ front, ∃ ms, (x.registerFields b).report e' = .ok ms) ∧
        (x.registerFields b).report e = .error err := by
  have hiff : (x.validateAll b).1 = .error err ↔
      (b.evaluate (x.registerFields b) x.localizer).1 = .error err := by
    cases heval : (b.evaluate (x.registerFields b) x.localizer).1 with
    | error err' => rw [validateAll_of_error heval]; simp
    | ok results => rw [validateAll_of_ok heval]; simp
  exact hiff.trans RuleBook.evaluate_eq_error_iff

/-- The results of all rules, and what they make of the book and of the object. -/
lemma exists_results (h : (x.validateAll b).1 = .ok ()) :
    ∃ results, b.Reports (x.registerFields b) x.localizer results ∧
      x.validateAll b
        = (.ok (), b.settle x.object b.names,
            { x with store := (x.registerFields b).store.commitAll results }) := by
  cases heval : (b.evaluate (x.registerFields b) x.localizer).1 with
  | error err =>
      rw [validateAll_of_error heval] at h
      cases h
  | ok results =>
      refine ⟨results, RuleBook.evaluate_eq_ok_iff.mp heval, ?_⟩
      rw [validateAll_of_ok heval, RuleBook.snd_evaluate_of_ok heval]
      rfl

/-- If all rules have an answer, every rule of the book was applied. -/
lemma book_validateAll (h : (x.validateAll b).1 = .ok ()) :
    (x.validateAll b).2.1 = b.settle x.object b.names := by
  obtain ⟨results, _, hall⟩ := exists_results h
  rw [hall]

/-- To apply all rules registers the declared fields, and no others, whether they have an answer or
not. -/
lemma names_validateAll (x : Instance) (b : RuleBook) :
    (x.validateAll b).2.2.store.names = (x.registerFields b).store.names := by
  cases heval : (b.evaluate (x.registerFields b) x.localizer).1 with
  | error err => rw [validateAll_of_error heval]
  | ok results =>
      rw [validateAll_of_ok heval]
      refine Store.names_commitAll fun r hr => ?_
      have hname : r.1 ∈ results.map Prod.fst := List.mem_map_of_mem hr
      rw [(RuleBook.evaluate_eq_ok_iff.mp heval).names_eq] at hname
      exact mem_names_registerFields.mpr (.inr hname)

/-- If all rules have an answer, a field has what its rules report. -/
lemma messages_validateAll (hx : x.store.names.Nodup) (hb : b.names.Nodup)
    (h : (x.validateAll b).1 = .ok ()) (he : e ∈ b.entries) :
    (x.registerFields b).report e = .ok ((x.validateAll b).2.2.store.messages e.name) := by
  obtain ⟨results, hresults, hall⟩ := exists_results h
  have hnd : (results.map Prod.fst).Nodup := by rwa [hresults.names_eq]
  obtain ⟨r, hr, hreport, hname⟩ := exists_right_of_forall₂ hresults he
  rw [hall, Store.messages_commitAll _ (names_registerFields hx b) hnd, ← hname,
    Store.lookup_of_mem hnd hr]
  exact hreport

/-- If all rules have an answer, a field without rules has nothing. -/
lemma messages_validateAll_of_not_mem (hx : x.store.names.Nodup) (hb : b.names.Nodup)
    (h : (x.validateAll b).1 = .ok ()) {field : String} (hfield : field ∉ b.names) :
    (x.validateAll b).2.2.store.messages field = [] := by
  obtain ⟨results, hresults, hall⟩ := exists_results h
  rw [← hresults.names_eq] at hb hfield
  rw [hall, Store.messages_commitAll _ (names_registerFields hx b) hb,
    Store.lookup_of_not_mem hfield]
  rfl

/-- If all rules have an answer, they publish an empty list for each field without rules that had
messages, and then what each field with rules has now. -/
lemma published_validateAll (hx : x.store.names.Nodup) (hb : b.names.Nodup)
    (h : (x.validateAll b).1 = .ok ()) :
    (x.validateAll b).2.2.store.published
      = x.store.published
        ++ (x.store.names.filter fun f =>
              !(x.store.messages f).isEmpty && !b.names.contains f).map (fun f => ⟨f, []⟩)
        ++ b.names.map fun f => ⟨f, (x.validateAll b).2.2.store.messages f⟩ := by
  obtain ⟨results, hresults, hall⟩ := exists_results h
  have hnd : (results.map Prod.fst).Nodup := by rwa [hresults.names_eq]
  have hms : ∀ r ∈ results, DistinctTexts r.2 := by
    intro r hr
    obtain ⟨e, _, her, _⟩ := exists_left_of_forall₂ hresults hr
    exact RuleBook.Entry.distinctTexts_of_evaluate her
  have hwrites := Store.writes_commitAll (x.registerFields b).store hms
  have hevents := (x.registerFields b).store.events_commitAll (names_registerFields hx b) hnd
  rw [hall, hwrites.published, hevents, published_registerFields, hresults.names_eq,
    registerFields, Store.stale_registerAll hx hb, List.append_assoc]

/-! ### The rules of one field -/

/-- An answer of the rules of a field is stored, and nothing else. -/
lemma validateField_of_report_ok (hne : e.name.isEmpty = false) (hb : b.names.Nodup)
    (he : e ∈ b.entries) {ms : List Message} (h : (x.registerFields b).report e = .ok ms) :
    x.validateField b e.name
      = (.ok (), b.settle x.object [e.name],
          { x with store := (x.registerFields b).store.commit e.name ms }) := by
  have hentry : b.entry? e.name = some e := (RuleBook.entry?_eq_some_iff hb).mpr ⟨he, rfl⟩
  have hbook : (b.evaluateEntry e (x.registerFields b) x.localizer).2
      = b.settle x.object [e.name] := RuleBook.snd_evaluateEntry_of_ok hb he h
  rw [validateField_of_ok hne hentry h, hbook]

/-- The rules of a field end in the error that they report. -/
lemma validateField_of_report_error (hne : e.name.isEmpty = false) (hb : b.names.Nodup)
    (he : e ∈ b.entries) {err : Error} (h : (x.registerFields b).report e = .error err) :
    (x.validateField b e.name).1 = .error err := by
  have hentry : b.entry? e.name = some e := (RuleBook.entry?_eq_some_iff hb).mpr ⟨he, rfl⟩
  rw [validateField_of_error hne hentry h]

lemma validateField_ok_iff (hne : e.name.isEmpty = false) (hb : b.names.Nodup)
    (he : e ∈ b.entries) :
    (x.validateField b e.name).1 = .ok () ↔ ∃ ms, (x.registerFields b).report e = .ok ms := by
  cases h : (x.registerFields b).report e with
  | ok ms => simp [validateField_of_report_ok hne hb he h]
  | error err => simp [validateField_of_report_error hne hb he h]

lemma validateField_error_iff (hne : e.name.isEmpty = false) (hb : b.names.Nodup)
    (he : e ∈ b.entries) {err : Error} :
    (x.validateField b e.name).1 = .error err ↔ (x.registerFields b).report e = .error err := by
  cases h : (x.registerFields b).report e with
  | ok ms => simp [validateField_of_report_ok hne hb he h]
  | error err' => simp [validateField_of_report_error hne hb he h]

end Instance

end FieldRules
