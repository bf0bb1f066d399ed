/-
What becomes of the calls that declare fields and handlers.

* `Action.replies`: the replies to a sequence of actions;
* `Site.Alike`: two sites for two models of one type whose books differ in the
  order of their handlers alone; `alike_apply`, `alike_run`: so they do after an
  action and after many, with the same replies;
* `Declaration.Rearranged`: the same calls, with those that declare handlers
  moved;
* `declarations_are_kept`: a book has the fields, the rules and the handlers that
  were declared, each in its place, and it does not matter where among them the
  handlers were declared.
-/
import FieldRules.Proofs.RuleBook.Alike
import FieldRules.Proofs.RuleTable.Declarations
import FieldRules.Proofs.Site.Writes

namespace FieldRules

/-- The replies to actions, one after the other. -/
def Action.replies (m : Model) (s : Site) : List Action → List Reply
  | [] => []
  | a :: rest => (a.apply m s).1 :: replies m (a.apply m s).2 rest

namespace Site

/-- Two sites with one object, for two models whose books are alike. -/
structure Alike (m m' : Model) (s s' : Site) : Prop where
  /-- The object. -/
  subject : s'.subject = s.subject
  /-- The other store. -/
  proxy : s'.proxy = s.proxy
  /-- The books. -/
  books : RuleBook.AlikeOutcomes (s.registry.getOrBuild m).1 (s'.registry.getOrBuild m').1

/-- Two replies that are the same, at sites that are alike. -/
def AlikeAfter (m m' : Model) (o o' : Reply × Site) : Prop :=
  o'.1 = o.1 ∧ o.2.Alike m m' o'.2

variable {m m' : Model} {s s' : Site}

/-- What goes on with a book goes on with one that is alike, if it does so whenever there are
two. -/
lemma alike_withBook (h : s.Alike m m' s') {act act' : RuleBook → Site → Reply × Site}
    (hact : ∀ b b' r r', s.registry.getOrBuild m = (.ok b, r) →
      s'.registry.getOrBuild m' = (.ok b', r') → b.Alike b' →
        AlikeAfter m m' (act b { s with registry := r }) (act' b' { s' with registry := r' })) :
    AlikeAfter m m' (s.withBook m act) (s'.withBook m' act') := by
  have hbooks := h.books
  cases hbook : s.registry.getOrBuild m with
  | mk o r =>
      cases hbook' : s'.registry.getOrBuild m' with
      | mk o' r' =>
          rw [hbook, hbook'] at hbooks
          cases hbooks with
          | failed e =>
              rw [withBook_of_error hbook, withBook_of_error hbook']
              exact ⟨rfl, h⟩
          | @alike b b' hb =>
              rw [withBook_of_ok hbook, withBook_of_ok hbook']
              exact hact b b' r r' hbook hbook' hb

/-- What leaves the books alone ends alike at sites that are alike. -/
lemma alike_reading (h : s.Alike m m' s') {act act' : RuleBook → Site → Reply × Site}
    (hact : ∀ b b' r r', b.Alike b' →
      (act' b' { s' with registry := r' }).1 = (act b { s with registry := r }).1 ∧
        (act' b' { s' with registry := r' }).2.subject
          = (act b { s with registry := r }).2.subject ∧
        (act' b' { s' with registry := r' }).2.proxy = (act b { s with registry := r }).2.proxy)
    (hkept : ∀ b t, (act b t).2.registry = t.registry)
    (hkept' : ∀ b t, (act' b t).2.registry = t.registry) :
    AlikeAfter m m' (s.withBook m act) (s'.withBook m' act') := by
  refine alike_withBook h fun b b' r r' hbook hbook' hb => ?_
  obtain ⟨hreply, hsubject, hproxy⟩ := hact b b' r r' hb
  refine ⟨hreply, hsubject, hproxy, ?_⟩
  rw [hkept, hkept', Registry.getOrBuild_of_get? (Registry.get?_of_getOrBuild hbook),
    Registry.getOrBuild_of_get? (Registry.get?_of_getOrBuild hbook')]
  exact .alike hb

/-- What applies the rules of the books ends alike at sites that are alike. -/
lemma alike_applying (h : s.Alike m m' s')
    {op : Instance → RuleBook → Except Error Unit × RuleBook × Instance}
    (hop : ∀ b b', b.Alike b' → Instance.Alike (op s.subject b) (op s.subject b')) :
    AlikeAfter m m' (s.applying m op) (s'.applying m' op) := by
  refine alike_withBook h fun b b' r r' hbook hbook' hb => ?_
  have hop' := hop b b' hb
  have hfst : (s.registry.getOrBuild m).1 = .ok b := by rw [hbook]
  have hfst' : (s'.registry.getOrBuild m').1 = .ok b' := by rw [hbook']
  have hupdate := Registry.getOrBuild_update hfst (op s.subject b).2.1
  have hupdate' := Registry.getOrBuild_update hfst' (op s.subject b').2.1
  rw [hbook] at hupdate
  rw [hbook'] at hupdate'
  rw [h.subject]
  refine ⟨congrArg Reply.ofUnit hop'.result, hop'.subject, h.proxy, ?_⟩
  rw [hupdate, hupdate']
  exact .alike hop'.book

/-- An action has the same reply at sites that are alike, and they are alike afterwards. -/
lemma alike_apply (h : s.Alike m m' s') (a : Action) :
    AlikeAfter m m' (a.apply m s) (a.apply m' s') := by
  have hstore : ∀ f : Store → Store, (s.withStore f).Alike m m' (s'.withStore f) := by
    intro f
    refine ⟨?_, h.proxy, h.books⟩
    rw [withStore, withStore, h.subject]
  cases a with
  | validateAll => exact alike_applying h fun b b' hb => Instance.alike_validateAll hb s.subject
  | validateField field =>
      exact alike_applying h fun b b' hb => Instance.alike_validateField hb s.subject field
  | refresh field =>
      rw [Action.apply, Action.apply]
      split
      · exact ⟨rfl, h⟩
      · exact alike_applying h fun b b' hb => Instance.alike_refresh hb s.subject field
  | perform rule field =>
      rw [Action.apply, Action.apply]
      split
      · exact ⟨rfl, h⟩
      · refine alike_reading h (fun b b' r r' hb => ?_) (fun _ _ => rfl) fun _ _ => rfl
        simp only [h.subject, h.proxy, Instance.perform_of_alike hb, and_self]
  | registerRuleFields =>
      refine alike_reading h (fun b b' r r' hb => ?_) (fun _ _ => rfl) fun _ _ => rfl
      simp only [h.subject, h.proxy, hb.ruleCount_eq, Instance.registerFields_of_alike hb, and_self]
  | fieldMessages =>
      refine alike_reading h (fun b b' r r' hb => ?_) (fun _ _ => rfl) fun _ _ => rfl
      simp only [h.subject, h.proxy, Instance.fieldMessages_of_alike hb, and_self]
  | delegate check failure field =>
      rw [Action.apply, Action.apply, h.subject, h.proxy]
      exact ⟨rfl, rfl, rfl, h.books⟩
  | add msg field =>
      rw [Action.apply, Action.apply, h.subject]
      cases s.subject.store.add msg field with
      | error e => exact ⟨rfl, h⟩
      | ok store => exact ⟨rfl, hstore fun _ => store⟩
  | remove msg field =>
      rw [Action.apply, Action.apply, h.subject]
      exact ⟨rfl, hstore fun _ => (s.subject.store.remove msg field).2⟩
  | registerField field => exact ⟨rfl, hstore (·.register field)⟩
  | clearField field => exact ⟨rfl, hstore (·.clearField field)⟩
  | clear => exact ⟨rfl, hstore Store.clear⟩
  | notify field => exact ⟨rfl, hstore (·.notify field)⟩

/-- Many actions have the same replies at sites that are alike, and they are alike afterwards. -/
lemma alike_run (h : s.Alike m m' s') (actions : List Action) :
    Action.replies m' s' actions = Action.replies m s actions ∧
      (Action.run m s actions).Alike m m' (Action.run m' s' actions) := by
  induction actions generalizing s s' with
  | nil => exact ⟨rfl, h⟩
  | cons a rest ih =>
      obtain ⟨hreply, hafter⟩ := alike_apply h a
      obtain ⟨hreplies, hrun⟩ := ih hafter
      rw [Action.replies, Action.replies, hreply, hreplies]
      exact ⟨rfl, hrun⟩

end Site

/-- The second calls are the first ones, in the same order but for those that declare handlers: of
these only the ones for one name keep their order. -/
structure Declaration.Rearranged (calls calls' : List Declaration) : Prop where
  /-- The calls that declare rules. -/
  fields : fields calls' = fields calls
  /-- Those that declare handlers under one name. -/
  handlers : ∀ name, handlersOf name calls' = handlersOf name calls

/-- Tables made by calls that are rearranged compile to books that are alike, or to one error. -/
lemma Declaration.Rearranged.alike_compile {calls calls' : List Declaration}
    (h : Rearranged calls calls') (typeName : String) :
    RuleBook.AlikeOutcomes ((RuleTable.declare calls).compile typeName)
      ((RuleTable.declare calls').compile typeName) := by
  have hfields : (RuleTable.declare calls').fields = (RuleTable.declare calls).fields := by
    rw [RuleTable.fields_declare, RuleTable.fields_declare, h.fields]
  refine RuleTable.alike_compile hfields (fun name => ?_) typeName
  rw [RuleTable.find?_handlers_declare, RuleTable.find?_handlers_declare, h.handlers]

/-- **Nothing that is declared gets lost**: whatever the calls that declare fields and handlers, if
their rules compile then the book has the declared fields in the order in which they first came;
each is read as it first was, and its rules are those of all calls for its name, in order; there are
as many rules as were declared, an entry is found under a name if and only if the name was declared,
and under a name stands the last handler that was declared under it. If handlers are declared
earlier or later, then there is the same error or a book that is alike, and all that is done to an
object from then on has the same replies and leaves the same messages and events. -/
theorem declarations_are_kept (typeName : String) (calls : List Declaration) :
    (∀ b, (RuleTable.declare calls).compile typeName = .ok b →
      b.typeName = typeName ∧
      b.names = ((Declaration.fields calls).map fun e => e.1.name).eraseDups ∧
      (∀ e ∈ b.entries,
        RuleTable.firstField? (Declaration.fields calls) e.name = some e.field ∧
          (RuleTable.rulesOf (Declaration.fields calls) e.name).mapM (b.compileRule e.name)
            = .ok e.rules) ∧
      b.ruleCount = ((Declaration.fields calls).flatMap Prod.snd).length ∧
      (∀ name,
        ((b.entry? name).isSome ↔ name ∈ (Declaration.fields calls).map fun e => e.1.name) ∧
          ∀ e, b.entry? name = some e → e ∈ b.entries ∧ e.name = name) ∧
      ∀ name, b.handlers.find? name = (Declaration.handlersOf name calls).getLast?) ∧
    ∀ calls', Declaration.Rearranged calls calls' →
      RuleBook.AlikeOutcomes ((RuleTable.declare calls).compile typeName)
          ((RuleTable.declare calls').compile typeName) ∧
        ∀ (s : Site) (actions : List Action), s.registry.get? typeName = none →
          Action.replies ⟨typeName, .declare calls'⟩ s actions
              = Action.replies ⟨typeName, .declare calls⟩ s actions ∧
            (Action.run ⟨typeName, .declare calls'⟩ s actions).subject
              = (Action.run ⟨typeName, .declare calls⟩ s actions).subject ∧
            (Action.run ⟨typeName, .declare calls'⟩ s actions).proxy
              = (Action.run ⟨typeName, .declare calls⟩ s actions).proxy := by
  refine ⟨fun b hb => ?_, fun calls' h => ⟨h.alike_compile typeName, fun s actions hs => ?_⟩⟩
  · have hfields := RuleTable.fields_declare calls
    have hnames : b.names = ((Declaration.fields calls).map fun e => e.1.name).eraseDups := by
      rw [RuleTable.names_of_compile hb, RuleTable.names, hfields, RuleTable.names_merge]
    have hnd : b.names.Nodup := hnames ▸ nodup_eraseDups _
    refine ⟨RuleTable.typeName_of_compile hb, hnames, fun e he => ?_, ?_, fun name => ⟨?_, ?_⟩,
      fun name => ?_⟩
    · obtain ⟨f, hf, hfield, hrules⟩ := RuleTable.exists_field_of_compile hb he
      obtain ⟨hfirst, hall⟩ := RuleTable.rules_of_mem_declare hf
      have hname : e.name = f.1.name := congrArg Field.name hfield
      rw [hname] at hrules ⊢
      rw [hfirst, hall, hfield]
      exact ⟨rfl, hrules⟩
    · rw [RuleTable.ruleCount_of_compile hb, hfields, RuleTable.length_rules_merge]
    · rw [← List.mem_eraseDups, ← hnames, ← not_iff_not, Option.not_isSome_iff_eq_none,
        RuleBook.entry?_eq_none_iff]
    · intro e he
      exact (RuleBook.entry?_eq_some_iff hnd).mp he
    · rw [RuleTable.handlers_of_compile hb, RuleTable.find?_handlers_declare]
  · have hbooks : RuleBook.AlikeOutcomes
        (s.registry.getOrBuild ⟨typeName, .declare calls⟩).1
        (s.registry.getOrBuild ⟨typeName, .declare calls'⟩).1 := by
      rw [Registry.fst_getOrBuild_of_none hs, Registry.fst_getOrBuild_of_none hs]
      exact h.alike_compile typeName
    obtain ⟨hreplies, hrun⟩ := Site.alike_run ⟨rfl, rfl, hbooks⟩ actions
    exact ⟨hreplies, hrun.subject, hrun.proxy⟩

/-- Declarations for tickets: rules for the seat in two places, and a handler that takes the place
of another. -/
def ticketCalls : List Declaration :=
  [.handler "check" .veto,
    .field (.ofKey "Seat" "Seat") [.ofClauses .valuePresent [.error "no seat"]],
    .field (.ofKey "Price" "Price") [.ofClauses .valuePresent [.error "no price"]],
    .handler "check" .pass,
    .field (.ofKey "Seat" "Row") [.ofClauses (.ofDelegate "check") [.error "bad seat"]]]

/-- The declarations for tickets with the handlers at the end. -/
def ticketCallsLater : List Declaration :=
  [.field (.ofKey "Seat" "Seat") [.ofClauses .valuePresent [.error "no seat"]],
    .field (.ofKey "Price" "Price") [.ofClauses .valuePresent [.error "no price"]],
    .field (.ofKey "Seat" "Row") [.ofClauses (.ofDelegate "check") [.error "bad seat"]],
    .handler "check" .veto, .handler "check" .pass]

/-- A ticket without anything. -/
def ticket : Site :=
  ⟨.empty, ⟨⟨"Ticket", []⟩, none, .empty⟩, none⟩

/-- Tickets have two fields and three rules, and the handler that was declared last has its say,
also if both handlers are declared at the end. -/
theorem declarations_of_tickets_are_kept :
    ∃ b, (RuleTable.declare ticketCalls).compile "Ticket" = .ok b ∧ b.names = ["Seat", "Price"] ∧
      b.ruleCount = 3 ∧ b.handlers.find? "check" = some .pass ∧
      Declaration.Rearranged ticketCalls ticketCallsLater ∧
      Action.replies ⟨"Ticket", .declare ticketCallsLater⟩ ticket
          [.validateAll, .registerRuleFields]
        = [.done, .ruleCount 3] := by
  obtain ⟨hkept, hmoved⟩ := declarations_are_kept "Ticket" ticketCalls
  have hlater : Declaration.Rearranged ticketCalls ticketCallsLater := by
    refine ⟨rfl, fun name => ?_⟩
    by_cases h : "check" = name <;> simp [Declaration.handlersOf, ticketCalls, ticketCallsLater, h]
  obtain ⟨b, hb⟩ : ∃ b, (RuleTable.declare ticketCalls).compile "Ticket" = .ok b := ⟨_, rfl⟩
  obtain ⟨_, hnames, _, hcount, _, hhandlers⟩ := hkept b hb
  obtain ⟨_, hruns⟩ := hmoved ticketCallsLater hlater
  obtain ⟨hreplies, _, _⟩ := hruns ticket [.validateAll, .registerRuleFields] rfl
  exact ⟨b, hb, hnames.trans rfl, hcount.trans rfl, (hhandlers "check").trans rfl, hlater,
    hreplies.trans rfl⟩

end FieldRules
