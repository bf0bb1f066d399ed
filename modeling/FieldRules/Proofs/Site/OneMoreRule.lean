/-
One more rule, and the same rule among those that are declared.

* `Instance.judge_of_entry`: one more rule compiles as if it were declared, and is
  applied to the field that is there;
* `Site.target`: the store that takes what it reports;
* `Site.reply_perform`, `messages_perform_of_silent`, `messages_perform_of_report`:
  the reply, and what becomes of that store;
* `perform_agrees_with_declaration`: what one more rule reports is what it would
  report behind the rules of its field.
-/
import FieldRules.Proofs.RuleTable.Extension
import FieldRules.Proofs.RuleBook.Widths
import FieldRules.Proofs.Site.Proxy

namespace FieldRules

namespace Instance

variable {x : Instance} {b : RuleBook} {d : RuleDecl} {field : String}

/-- One more rule compiles, or not, and then it is applied to the field of the entry. -/
lemma judge_of_entry {e : RuleBook.Entry} (he : b.entry? field = some e) :
    x.judge b d field
      = (b.compileRule field d).bind fun r => r.validate e.field x x.localizer := by
  rw [judge, he]
  cases b.compileRule field d <;> rfl

end Instance

namespace Site

/-- The store that takes the messages of checks and of single rules. -/
def target (s : Site) : Store :=
  s.proxy.getD s.subject.store

variable {m : Model} {s : Site} {b : RuleBook} {d : RuleDecl} {field : String}

/-- To register the declared fields changes no messages in the store that takes them. -/
lemma messages_target_registerFields (s : Site) (b : RuleBook) (f : String) :
    (s.proxy.getD (s.subject.registerFields b).store).messages f = s.target.messages f := by
  rw [target]
  cases s.proxy with
  | none => exact s.subject.messages_registerFields b f
  | some p => rfl

/-- One more rule replies what it reports. -/
lemma reply_perform (hne : field.isEmpty = false) (hbook : (s.registry.getOrBuild m).1 = .ok b)
    (d : RuleDecl) :
    ((Action.perform d field).apply m s).1
      = .ofReport ((s.subject.registerFields b).judge b d field) := by
  rw [apply_perform_of_ok hne (Prod.ext hbook rfl)]
  rcases s.subject.perform_cases b s.proxy d hne with hsilent | ⟨msg, y, q, hmsg, _, hperform⟩
  · rw [hsilent]
  · rw [hperform, hmsg]

/-- One more rule that reports no message leaves all messages alone. -/
lemma messages_perform_of_silent (hne : field.isEmpty = false)
    (hbook : (s.registry.getOrBuild m).1 = .ok b)
    (h : ∀ msg, (s.subject.registerFields b).judge b d field ≠ .ok (some msg)) (f : String) :
    ((Action.perform d field).apply m s).2.target.messages f = s.target.messages f := by
  rw [apply_perform_of_ok hne (Prod.ext hbook rfl), Instance.perform_of_silent h]
  exact s.messages_target_registerFields b f

/-- One more rule that reports a message adds it to the field. -/
lemma messages_perform_of_report {msg : Message} (hne : field.isEmpty = false)
    (hbook : (s.registry.getOrBuild m).1 = .ok b)
    (h : (s.subject.registerFields b).judge b d field = .ok (some msg)) :
    ((Action.perform d field).apply m s).2.target.messages field
        = insertDistinct (s.target.messages field) msg ∧
      ∀ f, f ≠ field →
        ((Action.perform d field).apply m s).2.target.messages f = s.target.messages f := by
  obtain ⟨y, q, hadd, hperform⟩ := Instance.perform_of_report s.proxy hne h
  have htarget := Instance.add_of_addTo hadd
  rw [apply_perform_of_ok hne (Prod.ext hbook rfl), hperform]
  refine ⟨?_, fun f hf => ?_⟩
  · rw [← s.messages_target_registerFields b field]
    exact Store.messages_of_add htarget
  · rw [← s.messages_target_registerFields b f]
    exact Store.messages_of_add_of_ne htarget hf

end Site

variable {m : Model} {s : Site} {t : RuleTable} {b₀ b : RuleBook} {g : Field}

/-- **One more rule is one that could be declared**: let a book be in use that was compiled from a
table, and let one more rule be applied to a field of the table. If it does not compile, that error
is the reply, and the table with the rule behind those of the field ends in it too. If it compiles,
so does this table, to a book in which the field has the rule behind those that it had, not bound to
any width; and the reply is what this rule reports of the object. A message that is reported is
added to the list of the field in the store that takes it, unless its text is there, and otherwise
no messages change. -/
theorem perform_agrees_with_declaration (hcompile : t.compile m.typeName = .ok b₀)
    (hbinds : b₀.Binds b) (hbook : (s.registry.getOrBuild m).1 = .ok b) (hg : g.name ∈ t.names)
    (hne : g.name.isEmpty = false) (d : RuleDecl) {reply : Reply} {s' : Site}
    (happly : (Action.perform d g.name).apply m s = (reply, s')) :
    (∀ err, d.compile m.typeName g.name t.handlers = .error err →
      reply = .failed err ∧ (t.field g [d]).compile m.typeName = .error err) ∧
    (∀ r, d.compile m.typeName g.name t.handlers = .ok r →
      ∃ b' e e', (t.field g [d]).compile m.typeName = .ok b' ∧
        b₀.entry? g.name = some e ∧ b'.entry? g.name = some e' ∧
        e'.field = e.field ∧ e'.rules = e.rules ++ [r] ∧ r.check.width? = none ∧
        reply = .ofReport
          (r.validate e'.field (s.subject.registerFields b') s.subject.localizer)) ∧
    (∀ msg, reply = .report (some msg) →
      s'.target.messages g.name
          = (if hasText (s.target.messages g.name) msg.text then s.target.messages g.name
            else s.target.messages g.name ++ [msg]) ∧
        ∀ f, f ≠ g.name → s'.target.messages f = s.target.messages f) ∧
    ((∀ msg, reply ≠ .report (some msg)) →
      ∀ f, s'.target.messages f = s.target.messages f) := by
  obtain rfl : ((Action.perform d g.name).apply m s).1 = reply := congrArg Prod.fst happly
  obtain rfl : ((Action.perform d g.name).apply m s).2 = s' := congrArg Prod.snd happly
  have hentry : b.entry? g.name ≠ none := by
    rw [ne_eq, RuleBook.entry?_eq_none_iff, not_not, hbinds.names_eq,
      RuleTable.names_of_compile hcompile]
    exact hg
  obtain ⟨e, he⟩ := Option.ne_none_iff_exists'.mp hentry
  obtain ⟨e₀, he₀, hbound⟩ := hbinds.exists_entry? he
  have hrule : b₀.compileRule g.name d = d.compile m.typeName g.name t.handlers := by
    rw [RuleBook.compileRule, RuleTable.typeName_of_compile hcompile,
      RuleTable.handlers_of_compile hcompile]
  have hjudge : (s.subject.registerFields b).judge b d g.name
      = (d.compile m.typeName g.name t.handlers).bind fun r =>
          r.validate e₀.field (s.subject.registerFields b) s.subject.localizer := by
    rw [Instance.judge_of_entry he, hbinds.compileRule_eq, hrule, hbound.field]
    rfl
  have hextended := RuleTable.compile_field_of_mem hcompile hg d
  rw [hrule] at hextended
  have hreply := Site.reply_perform hne hbook d
  refine ⟨fun err herr => ?_, fun r hr => ?_, fun msg hreport => ?_, fun hsilent => ?_⟩
  · rw [hreply, hjudge, hextended, herr]
    exact ⟨rfl, rfl⟩
  · rw [hreply, hjudge, hextended, hr]
    have hregister : s.subject.registerFields (b₀.withRule g.name r)
        = s.subject.registerFields b := by
      rw [Instance.registerFields, Instance.registerFields, RuleBook.names_withRule,
        hbinds.names_eq]
    refine ⟨b₀.withRule g.name r, e₀, e₀.withRule r, rfl, he₀, RuleBook.entry?_withRule he₀ r, rfl,
      rfl, RuleDecl.width?_of_compile hr, ?_⟩
    rw [hregister]
    rfl
  · rw [hreply, Reply.ofReport_eq_report_iff] at hreport
    exact Site.messages_perform_of_report hne hbook hreport
  · refine Site.messages_perform_of_silent hne hbook fun msg hmsg => hsilent msg ?_
    rw [hreply, hmsg]
    rfl

/-- An order that costs too much and was validated. -/
def validatedOrder : Site := (Action.validateAll.apply orders (order sevenUnits)).2

/-- The book of orders after an order that costs too much was validated: the price was compared as a
number of its width. -/
def usedOrdersBook : RuleBook := ((order sevenUnits).subject.validateAll ordersBook).2.1

/-- One more rule for the price of the order reports what it would report among those of the price,
and its message comes behind theirs. -/
theorem perform_on_price_agrees_with_declaration :
    orders.rules.compile orders.typeName = .ok ordersBook ∧ ordersBook.Binds usedOrdersBook ∧
      (validatedOrder.registry.getOrBuild orders).1 = .ok usedOrdersBook ∧
      "Price" ∈ orders.rules.names ∧ "Price".isEmpty = false ∧
      ∃ t, (Action.perform belowThree "Price").apply orders validatedOrder
          = (.report (some ⟨.error, "above three"⟩), t) ∧
        t.target.messages "Price" = [⟨.warning, "too dear"⟩, ⟨.error, "above three"⟩] ∧
        ∃ b' e r, (orders.rules.field (.ofKey "Price" "Price") [belowThree]).compile "Order"
            = .ok b' ∧
          b'.entry? "Price" = some e ∧ r ∈ e.rules ∧
          r.validate e.field (validatedOrder.subject.registerFields b') none
            = .ok (some ⟨.error, "above three"⟩) := by
  have hcompile : orders.rules.compile orders.typeName = .ok ordersBook := rfl
  have hbinds : ordersBook.Binds usedOrdersBook :=
    ((order sevenUnits).subject.orderly_validateAll ordersBook).binds
  have hbook : (validatedOrder.registry.getOrBuild orders).1 = .ok usedOrdersBook := rfl
  have hmem : "Price" ∈ orders.rules.names := by decide
  have hne : "Price".isEmpty = false := by decide
  have happly : (Action.perform belowThree "Price").apply orders validatedOrder
      = (.report (some ⟨.error, "above three"⟩),
          ((Action.perform belowThree "Price").apply orders validatedOrder).2) := rfl
  have hrule : belowThree.compile "Order" "Price" orders.rules.handlers
      = .ok ⟨.numeric (.fresh (.lessThan ⟨"3", none⟩)), .error, "above three", none, none, none⟩ :=
    rfl
  obtain ⟨_, hcompiled, hreport, _⟩ :=
    perform_agrees_with_declaration (g := .ofKey "Price" "Price") hcompile hbinds hbook hmem hne
      belowThree happly
  obtain ⟨b', e₀, e, hextended, _, he, _, hrules, _, hagrees⟩ := hcompiled _ hrule
  have hlast : _ ∈ e.rules := hrules ▸ List.mem_append_right e₀.rules List.mem_cons_self
  exact ⟨hcompile, hbinds, hbook, hmem, hne, _, happly, (hreport _ rfl).1.trans rfl, b', e, _,
    hextended, he, hlast, Reply.ofReport_eq_report_iff.mp hagrees.symm⟩

end FieldRules
