/-
Actions on an object under validation.

* `Action`: everything that can be done to an object and its messages;
* `Site`: what an action may change: the registry, the object, and a second
  store that may receive messages in place of its own;
* `Action.apply`: the reply to an action and the site afterwards;
* `Action.run`: a sequence of actions.
-/
import FieldRules.Instance
import FieldRules.Registry

namespace FieldRules

/-- What can be done to an object under validation. -/
inductive Action where
  /-- Register the fields that have rules. -/
  | registerRuleFields
  /-- Apply every rule. -/
  | validateAll
  /-- Apply the rules of a field. -/
  | validateField (field : String)
  /-- Apply the rules of a field that has messages. -/
  | refresh (field : String)
  /-- Apply one more rule to a field. -/
  | perform (rule : RuleDecl) (field : String)
  /-- Store the outcome of a check that is no rule. -/
  | delegate (check : Instance → Bool) (failure : Message) (field : String)
  /-- Register a field. -/
  | registerField (field : String)
  /-- Add a message. -/
  | add (m : Message) (field : String)
  /-- Remove a message. -/
  | remove (m : Message) (field : String)
  /-- Remove the messages of a field. -/
  | clearField (field : String)
  /-- Remove all messages. -/
  | clear
  /-- Publish the messages of a field. -/
  | notify (field : String)
  /-- Ask for the messages of all fields, registered or with rules. -/
  | fieldMessages

/-- The reply to an action. -/
inductive Reply where
  /-- Done, with nothing to say. -/
  | done
  /-- There is no answer. -/
  | failed (e : Error)
  /-- What a rule or a check reported. -/
  | report (m : Option Message)
  /-- Whether something was removed. -/
  | removed (b : Bool)
  /-- How many rules there are. -/
  | ruleCount (n : Nat)
  /-- Fields with their messages. -/
  | fields (fs : List (String × List Message))

namespace Reply

/-- The reply to an action that has nothing to say. -/
def ofUnit : Except Error Unit → Reply
  | .ok _ => done
  | .error e => failed e

/-- The reply to an action that reports. -/
def ofReport : Except Error (Option Message) → Reply
  | .ok m => report m
  | .error e => failed e

end Reply

/-- What an action may change. -/
structure Site where
  /-- The rule books in use. -/
  registry : Registry
  /-- The object under validation. -/
  subject : Instance
  /-- The store that receives messages in place of the own one, if there is one. -/
  proxy : Option Store

namespace Site

/-- Changes the messages of the object. -/
def withStore (s : Site) (f : Store → Store) : Site :=
  { s with subject := { s.subject with store := f s.subject.store } }

/-- Goes on with the rule book of the model, if there is one. -/
def withBook (s : Site) (m : Model) (act : RuleBook → Site → Reply × Site) : Reply × Site :=
  match s.registry.getOrBuild m with
  | (.error e, registry) => (.failed e, { s with registry := registry })
  | (.ok b, registry) => act b { s with registry := registry }

/-- Goes on with an operation that applies rules of the book, and keeps the book afterwards. -/
def applying (s : Site) (m : Model)
    (op : Instance → RuleBook → Except Error Unit × RuleBook × Instance) : Reply × Site :=
  s.withBook m fun b s =>
    let (result, b, x) := op s.subject b
    (.ofUnit result, { s with registry := s.registry.update m.typeName b, subject := x })

end Site

namespace Action

/-- The reply to an action on an object of the model, and the site afterwards. -/
def apply (m : Model) (s : Site) : Action → Reply × Site
  | registerRuleFields =>
    s.withBook m fun b s =>
      (.ruleCount b.ruleCount, { s with subject := s.subject.registerFields b })
  | validateAll => s.applying m Instance.validateAll
  | validateField field => s.applying m fun x b => x.validateField b field
  | refresh field =>
    if field.isEmpty then (.failed .missingFieldName, s)
    else s.applying m fun x b => x.refresh b field
  | perform rule field =>
    if field.isEmpty then (.failed .missingFieldName, s)
    else
      s.withBook m fun b s =>
        let (result, x, proxy) := s.subject.perform b s.proxy rule field
        (.ofReport result, { s with subject := x, proxy := proxy })
  | delegate check failure field =>
    let (result, x, proxy) := s.subject.delegate s.proxy check failure field
    (.ofReport result, { s with subject := x, proxy := proxy })
  | registerField field => (.done, s.withStore (·.register field))
  | add msg field =>
    match s.subject.store.add msg field with
    | .error e => (.failed e, s)
    | .ok store => (.done, s.withStore fun _ => store)
  | remove msg field =>
    let (removed, store) := s.subject.store.remove msg field
    (.removed removed, s.withStore fun _ => store)
  | clearField field => (.done, s.withStore (·.clearField field))
  | clear => (.done, s.withStore Store.clear)
  | notify field => (.done, s.withStore (·.notify field))
  | fieldMessages =>
    s.withBook m fun b s => (.fields (sortByName (s.subject.fieldMessages b)), s)

/-- The site after a sequence of actions. -/
def run (m : Model) (s : Site) (actions : List Action) : Site :=
  actions.foldl (fun s a => (a.apply m s).2) s

end Action

end FieldRules
