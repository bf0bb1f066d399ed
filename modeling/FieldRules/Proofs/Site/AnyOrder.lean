/-
Field by field, in any order.

* `Site.Validated`: what a site became by applying the rules of some fields,
  which is told by the fields alone;
* `Validated.validateField`, `Validated.run`: one more field, and many of them;
* `validated_validateAll`: all of them at once;
* `Validated.agree`: two ways to the same fields agree;
* `validateAll_failed_iff_field`: the error of all rules together;
* `validateAll_agrees_in_any_order`: so does applying all rules with applying
  those of one field after the other.
-/
import FieldRules.Proofs.Site.Validation

namespace FieldRules

namespace Site

variable {m : Model} {s t u : Site} {b : RuleBook} {fields : List String}

/-- The site `t` is what `s` became when the rules of these fields were applied: their messages are
those that the rules report of `s`, and the rules of no other field were bound. -/
structure Validated (m : Model) (b : RuleBook) (s : Site) (fields : List String) (t : Site) :
    Prop where
  /-- The book in use. -/
  book : (t.registry.getOrBuild m).1 = .ok (b.settle s.subject.object fields)
  /-- The object stays. -/
  object : t.subject.object = s.subject.object
  /-- Its localizer stays. -/
  localizer : t.subject.localizer = s.subject.localizer
  /-- The messages of the fields. -/
  messages : ∀ e ∈ b.entries, e.name ∈ fields →
    s.subject.report e = .ok (t.subject.store.messages e.name)

/-- Without any rule applied a site becomes itself. -/
lemma validated_nil (hbook : (s.registry.getOrBuild m).1 = .ok b) : s.Validated m b [] s :=
  ⟨by rw [hbook, RuleBook.settle_nil], rfl, rfl, fun _ _ hmem => by cases hmem⟩

/-- Two ways to apply the rules of the same fields end with the same messages and with the same
book. -/
lemma Validated.agree {fields' : List String} (ht : s.Validated m b fields t)
    (hu : s.Validated m b fields' u) (h : ∀ f, f ∈ fields ↔ f ∈ fields') :
    (∀ f ∈ b.names, f ∈ fields →
        t.subject.store.messages f = u.subject.store.messages f) ∧
      (t.registry.getOrBuild m).1 = (u.registry.getOrBuild m).1 := by
  constructor
  · intro f hf hfields
    obtain ⟨e, he, rfl⟩ := List.mem_map.mp hf
    have hreport := ht.messages e he hfields
    rw [hu.messages e he ((h e.name).mp hfields)] at hreport
    exact (Except.ok.inj hreport).symm
  · rw [ht.book, hu.book, RuleBook.settle_congr h]

variable {e : RuleBook.Entry}

/-- The rules of a field that was not touched yet report of the site what they reported in the
beginning. -/
lemma Validated.report_eq (h : s.Validated m b fields t) (hb : b.FieldsOnly) (he : e ∈ b.entries)
    (b' : RuleBook) : (t.subject.registerFields b').report e = s.subject.report e :=
  Instance.report_congr hb he h.object h.localizer

/-- One more field can be validated, in addition to those that were. -/
lemma Validated.validateField (h : s.Validated m b fields t) (hb : b.FieldsOnly)
    (hnd : b.names.Nodup) (he : e ∈ b.entries) (hne : e.name.isEmpty = false)
    (hfresh : e.name ∉ fields) {ms : List Message} (hms : s.subject.report e = .ok ms) :
    ((Action.validateField e.name).apply m t).1 = .done ∧
      s.Validated m b (fields ++ [e.name]) ((Action.validateField e.name).apply m t).2 := by
  have hnd' : (b.settle s.subject.object fields).names.Nodup := by rwa [RuleBook.names_settle]
  have hreport := (h.report_eq hb he (b.settle s.subject.object fields)).trans hms
  have hvalidate := Instance.validateField_of_report_ok hne hnd'
    (RuleBook.mem_settle he hfresh s.subject.object) hreport
  rw [apply_validateField h.book, hvalidate]
  refine ⟨rfl, ?_, h.object, h.localizer, fun e' he' hmem => ?_⟩
  · rw [h.object, RuleBook.settle_settle hfresh]
    exact Registry.getOrBuild_update h.book _
  · by_cases hname : e'.name = e.name
    · obtain rfl := List.inj_on_of_nodup_map hnd he' he hname
      rw [Store.messages_commit_self]
      exact hms
    · have hold : e'.name ∈ fields := by
        rcases List.mem_append.mp hmem with hold | hnew
        · exact hold
        · exact absurd (List.mem_singleton.mp hnew) hname
      rw [Store.messages_commit_of_ne _ hname, Instance.messages_registerFields]
      exact h.messages e' he' hold

/-- Many more fields can be validated, one after the other, in addition to those that were. -/
lemma Validated.run (h : s.Validated m b fields t) (hb : b.FieldsOnly) (hnd : b.names.Nodup)
    (hne : "" ∉ b.names) (hall : ∀ e ∈ b.entries, ∃ ms, s.subject.report e = .ok ms)
    {order : List String} (horder : (fields ++ order).Nodup) (hmem : ∀ f ∈ order, f ∈ b.names) :
    s.Validated m b (fields ++ order) (Action.run m t (order.map .validateField)) := by
  induction order generalizing fields t with
  | nil => rwa [List.append_nil]
  | cons f rest ih =>
      obtain ⟨e, he, rfl⟩ := List.mem_map.mp (hmem f List.mem_cons_self)
      obtain ⟨ms, hms⟩ := hall e he
      have hfresh : e.name ∉ fields := fun hin =>
        List.disjoint_of_nodup_append horder hin List.mem_cons_self
      have hstep :=
        (h.validateField hb hnd he (RuleBook.isEmpty_name hne he) hfresh hms).2
      rw [List.append_cons] at horder ⊢
      exact ih hstep horder fun f hf => hmem f (List.mem_cons_of_mem e.name hf)

/-- Each of many fields has an answer when its turn comes. -/
lemma done_in_order (hbook : (s.registry.getOrBuild m).1 = .ok b) (hb : b.FieldsOnly)
    (hnd : b.names.Nodup) (hne : "" ∉ b.names)
    (hall : ∀ e ∈ b.entries, ∃ ms, s.subject.report e = .ok ms) {front back : List String}
    {f : String} (horder : (front ++ f :: back).Perm b.names) :
    ((Action.validateField f).apply m (Action.run m s (front.map .validateField))).1 = .done := by
  have hnodup : (front ++ f :: back).Nodup := horder.symm.nodup hnd
  have hsofar : s.Validated m b front (Action.run m s (front.map .validateField)) :=
    (validated_nil hbook).run hb hnd hne hall hnodup.of_append_left fun f' hf' =>
      horder.mem_iff.mp (List.mem_append_left _ hf')
  have hf : f ∈ b.names := horder.mem_iff.mp (List.mem_append_right front List.mem_cons_self)
  obtain ⟨e, he, rfl⟩ := List.mem_map.mp hf
  obtain ⟨ms, hms⟩ := hall e he
  have hfresh : e.name ∉ front := fun hin =>
    List.disjoint_of_nodup_append hnodup hin List.mem_cons_self
  exact (hsofar.validateField hb hnd he (RuleBook.isEmpty_name hne he) hfresh hms).1

/-- To apply all rules at once is to validate all fields. -/
lemma validated_validateAll (hs : s.Reachable) (hbook : (s.registry.getOrBuild m).1 = .ok b)
    (hb : b.FieldsOnly) (hnd : b.names.Nodup)
    (hdone : (Action.validateAll.apply m s).1 = .done) :
    s.Validated m b b.names (Action.validateAll.apply m s).2 := by
  rw [apply_validateAll hbook] at hdone ⊢
  have hok := Reply.ofUnit_eq_done_iff.mp hdone
  have horderly := s.subject.orderly_validateAll b
  refine ⟨?_, horderly.object, horderly.localizer, fun e he _ => ?_⟩
  · rw [Instance.book_validateAll hok]
    exact Registry.getOrBuild_update hbook _
  · have hreport := Instance.messages_validateAll hs.store.nodup_names hnd hok he
    rwa [Instance.report_registerFields hb he] at hreport

/-! ### Replies -/

variable (hbook : (s.registry.getOrBuild m).1 = .ok b) (hb : b.FieldsOnly)

include hbook hb

lemma validateAll_done_iff :
    (Action.validateAll.apply m s).1 = .done ↔
      ∀ e ∈ b.entries, ∃ ms, s.subject.report e = .ok ms := by
  rw [apply_validateAll hbook, Reply.ofUnit_eq_done_iff, Instance.validateAll_ok_iff]
  refine forall₂_congr fun e he => ?_
  rw [Instance.report_registerFields hb he]

lemma validateAll_failed_iff {err : Error} :
    (Action.validateAll.apply m s).1 = .failed err ↔
      ∃ front e back, b.entries = front ++ e :: back ∧
        (∀ e' ∈ front, ∃ ms, s.subject.report e' = .ok ms) ∧
        s.subject.report e = .error err := by
  rw [apply_validateAll hbook, Reply.ofUnit_eq_failed_iff, Instance.validateAll_error_iff]
  refine exists_congr fun front => exists_congr fun e => exists_congr fun back =>
    and_congr_right fun hsplit => ?_
  have hmem : ∀ e' ∈ front ++ e :: back, e' ∈ b.entries := fun e' he' => hsplit ▸ he'
  rw [Instance.report_registerFields hb (hmem e (List.mem_append_right front List.mem_cons_self))]
  refine and_congr_left fun _ => forall₂_congr fun e' he' => ?_
  rw [Instance.report_registerFields hb (hmem e' (List.mem_append_left _ he'))]

variable (hnd : b.names.Nodup) (he : e ∈ b.entries) (hne : "" ∉ b.names)

include hnd he hne

lemma validateField_done_iff :
    ((Action.validateField e.name).apply m s).1 = .done ↔ ∃ ms, s.subject.report e = .ok ms := by
  rw [apply_validateField hbook, Reply.ofUnit_eq_done_iff,
    Instance.validateField_ok_iff (RuleBook.isEmpty_name hne he) hnd he,
    Instance.report_registerFields hb he]

lemma validateField_failed_iff {err : Error} :
    ((Action.validateField e.name).apply m s).1 = .failed err ↔
      s.subject.report e = .error err := by
  rw [apply_validateField hbook, Reply.ofUnit_eq_failed_iff,
    Instance.validateField_error_iff (RuleBook.isEmpty_name hne he) hnd he,
    Instance.report_registerFields hb he]

omit he

/-- All rules together end in the error of the first field that ends in one by itself. -/
lemma validateAll_failed_iff_field {err : Error} :
    (Action.validateAll.apply m s).1 = .failed err ↔
      ∃ front f back, b.names = front ++ f :: back ∧
        (∀ f' ∈ front, ((Action.validateField f').apply m s).1 = .done) ∧
        ((Action.validateField f).apply m s).1 = .failed err := by
  rw [validateAll_failed_iff hbook hb]
  constructor
  · rintro ⟨front, e, back, hsplit, hfront, he⟩
    have hmem : ∀ e' ∈ front ++ e :: back, e' ∈ b.entries := fun e' he' => hsplit ▸ he'
    refine ⟨front.map RuleBook.Entry.name, e.name, back.map RuleBook.Entry.name, ?_, ?_, ?_⟩
    · rw [RuleBook.names, hsplit, List.map_append, List.map_cons]
    · intro f' hf'
      obtain ⟨e', he', rfl⟩ := List.mem_map.mp hf'
      have hin := hmem e' (List.mem_append_left _ he')
      exact (validateField_done_iff hbook hb hnd hin hne).mpr (hfront e' he')
    · have hin := hmem e (List.mem_append_right front List.mem_cons_self)
      exact (validateField_failed_iff hbook hb hnd hin hne).mpr he
  · rintro ⟨front, f, back, hsplit, hfront, hf⟩
    rw [RuleBook.names] at hsplit
    obtain ⟨front, rest, hentries, rfl, hrest⟩ := List.map_eq_append_iff.mp hsplit
    obtain ⟨e, back, rfl, rfl, rfl⟩ := List.map_eq_cons_iff.mp hrest
    have hmem : ∀ e' ∈ front ++ e :: back, e' ∈ b.entries := fun e' he' => hentries ▸ he'
    refine ⟨front, e, back, hentries, fun e' he' => ?_, ?_⟩
    · have hin := hmem e' (List.mem_append_left _ he')
      exact (validateField_done_iff hbook hb hnd hin hne).mp
        (hfront e'.name (List.mem_map_of_mem he'))
    · have hin := hmem e (List.mem_append_right front List.mem_cons_self)
      exact (validateField_failed_iff hbook hb hnd hin hne).mp hf

end Site

variable {m : Model} {s : Site}

/-- **All at once or one by one**: all rules have an answer together if and only if those of each
declared field have one by themselves; then applying the rules of one field after the other, in any
order, always has an answer and ends with the same messages of the declared fields and the same
book, with the same widths. Otherwise all rules together end in the error of the first declared
field that ends in an error by itself. Declarations that make no sense are the error of every
call. -/
theorem validateAll_agrees_in_any_order (hm : m.rules.Declared) (hs : s.Reachable) :
    (∀ err, (s.registry.getOrBuild m).1 = .error err →
      (Action.validateAll.apply m s).1 = .failed err ∧
        ∀ f, ((Action.validateField f).apply m s).1 = .failed err) ∧
    ∀ b, (s.registry.getOrBuild m).1 = .ok b → b.FieldsOnly → "" ∉ b.names →
      ((Action.validateAll.apply m s).1 = .done ↔
        ∀ f ∈ b.names, ((Action.validateField f).apply m s).1 = .done) ∧
      ((Action.validateAll.apply m s).1 = .done → ∀ order : List String, order.Perm b.names →
        (∀ front f back, order = front ++ f :: back →
          ((Action.validateField f).apply m
            (Action.run m s (front.map .validateField))).1 = .done) ∧
        (∀ f ∈ b.names,
          (Action.run m s (order.map .validateField)).subject.store.messages f
            = (Action.validateAll.apply m s).2.subject.store.messages f) ∧
        ∃ b', ((Action.run m s (order.map .validateField)).registry.getOrBuild m).1 = .ok b' ∧
          ((Action.validateAll.apply m s).2.registry.getOrBuild m).1 = .ok b') ∧
      ∀ err, (Action.validateAll.apply m s).1 = .failed err ↔
        ∃ front f back, b.names = front ++ f :: back ∧
          (∀ f' ∈ front, ((Action.validateField f').apply m s).1 = .done) ∧
          ((Action.validateField f).apply m s).1 = .failed err := by
  refine ⟨fun err herr => ?_, fun b hbook hb hne => ?_⟩
  · have hbook : s.registry.getOrBuild m = (.error err, (s.registry.getOrBuild m).2) :=
      Prod.ext herr rfl
    exact ⟨congrArg Prod.fst (Site.applying_of_error hbook _),
      fun f => congrArg Prod.fst (Site.applying_of_error hbook _)⟩
  have hnd : b.names.Nodup :=
    (hs.registry.compiled_of_getOrBuild hm (Prod.ext hbook rfl)).nodup_names
  refine ⟨?_, fun hdone order horder => ?_, fun err => ?_⟩
  · rw [Site.validateAll_done_iff hbook hb, RuleBook.names, List.forall_mem_map]
    exact forall₂_congr fun e he => (Site.validateField_done_iff hbook hb hnd he hne).symm
  · have hall := (Site.validateAll_done_iff hbook hb).mp hdone
    have hlast := (Site.validated_nil hbook).run hb hnd hne hall (horder.symm.nodup hnd)
      fun f hf => horder.mem_iff.mp hf
    have hother := Site.validated_validateAll hs hbook hb hnd hdone
    have hsame : ∀ f, f ∈ [] ++ order ↔ f ∈ b.names := fun f => horder.mem_iff
    obtain ⟨hmessages, hbooks⟩ := hlast.agree hother hsame
    refine ⟨fun front f back hsplit => ?_, fun f hf => ?_, _, hlast.book, ?_⟩
    · exact Site.done_in_order hbook hb hnd hne hall (hsplit ▸ horder)
    · exact hmessages f hf ((hsame f).mpr hf)
    · rw [← hbooks]
      exact hlast.book
  · exact Site.validateAll_failed_iff_field hbook hb hnd hne

/-- An order that costs too much: its price is looked at first, and then its name. -/
theorem order_agrees_in_any_order :
    orders.rules.Declared ∧ (order sevenUnits).Reachable ∧
      (Action.validateAll.apply orders (order sevenUnits)).1 = .done ∧
      (Action.run orders (order sevenUnits)
          [.validateField "Price", .validateField "Name"]).subject.store.messages "Price"
        = [⟨.warning, "too dear"⟩] := by
  have hdone : (Action.validateAll.apply orders (order sevenUnits)).1 = .done := rfl
  obtain ⟨_, hbook⟩ :=
    validateAll_agrees_in_any_order declared_orders (reachable_order sevenUnits)
  obtain ⟨_, hagrees, _⟩ :=
    hbook ordersBook (getOrBuild_order sevenUnits) fieldsOnly_ordersBook (by decide)
  obtain ⟨_, hmessages, _⟩ := hagrees hdone ["Price", "Name"] (List.Perm.swap _ _ [])
  have hprice := hmessages "Price" (by decide)
  exact ⟨declared_orders, reachable_order sevenUnits, hdone, hprice.trans rfl⟩

end FieldRules
