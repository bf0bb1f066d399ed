/-
What is done to objects under validation, given the rule book of their type.

* `Instance.validateAll`, `validateField`, `refresh`: applying the rules of the
  book and storing what they report; an error stores nothing;
* `Instance.perform`: applying one rule that is not in the book;
* `Instance.delegate`: a check that is no rule at all;
* `Instance.fieldMessages`: the messages of all fields, registered or with rules.

Each operation that applies rules of the book gives back the book too, in which
numeric rules may have been bound to a width.
-/
import FieldRules.RuleTable

namespace FieldRules

namespace Instance

/-- Registers every field that has rules. -/
def registerFields (x : Instance) (b : RuleBook) : Instance :=
  { x with store := x.store.registerAll b.names }

/-- Applies every rule. Afterwards each field of the book has exactly the messages of its rules, and
no other field has any. -/
def validateAll (x : Instance) (b : RuleBook) : Except Error Unit × RuleBook × Instance :=
  let x := x.registerFields b
  match b.evaluate x x.localizer with
  | (.error e, b) => (.error e, b, x)
  | (.ok results, b) => (.ok (), b, { x with store := x.store.commitAll results })

/-- Applies the rules of one field. Without a name it applies every rule; a field that is registered
but has no rules loses its messages. -/
def validateField (x : Instance) (b : RuleBook) (field : String) :
    Except Error Unit × RuleBook × Instance :=
  if field.isEmpty then x.validateAll b
  else
    let x := x.registerFields b
    match b.entry? field with
    | none =>
      if x.store.isRegistered field then
        (.ok (), b, { x with store := x.store.commit field [] })
      else (.error (.unknownField field b.typeName), b, x)
    | some e =>
      match b.evaluateEntry e x x.localizer with
      | (.error err, b) => (.error err, b, x)
      | (.ok ms, b) => (.ok (), b, { x with store := x.store.commit field ms })

/-- Applies the rules of a field that has messages; of any other registered field it publishes what
it has. -/
def refresh (x : Instance) (b : RuleBook) (field : String) :
    Except Error Unit × RuleBook × Instance :=
  let x := x.registerFields b
  if !x.store.isRegistered field then (.error (.unknownField field b.typeName), b, x)
  else if !(x.store.messages field).isEmpty && (b.entry? field).isSome then
    x.validateField b field
  else (.ok (), b, { x with store := x.store.notify field })

/-- The message that one more rule reports on a field that has rules. -/
def judge (x : Instance) (b : RuleBook) (d : RuleDecl) (field : String) :
    Except Error (Option Message) :=
  match b.entry? field with
  | none => .error (.unknownField field b.typeName)
  | some e =>
    match b.compileRule field d with
    | .error err => .error err
    | .ok r => r.validate e.field x x.localizer

/-- Adds a message to the other store, if there is one, and to the own otherwise. -/
def addTo (x : Instance) (proxy : Option Store) (m : Message) (field : String) :
    Except Error (Instance × Option Store) :=
  match proxy with
  | some s => (s.add m field).map fun s => (x, some s)
  | none => (x.store.add m field).map fun s => ({ x with store := s }, none)

/-- Removes a message from the other store, if there is one, and from the own otherwise. -/
def removeFrom (x : Instance) (proxy : Option Store) (m : Message) (field : String) :
    Instance × Option Store :=
  match proxy with
  | some s => (x, some (s.remove m field).2)
  | none => ({ x with store := (x.store.remove m field).2 }, none)

/-- Applies one more rule to a field that has rules, and adds the message that it reports. -/
def perform (x : Instance) (b : RuleBook) (proxy : Option Store) (d : RuleDecl) (field : String) :
    Except Error (Option Message) × Instance × Option Store :=
  let x := x.registerFields b
  match x.judge b d field with
  | .error e => (.error e, x, proxy)
  | .ok none => (.ok none, x, proxy)
  | .ok (some m) =>
    match x.addTo proxy m field with
    | .error e => (.error e, x, proxy)
    | .ok (x, proxy) => (.ok (some m), x, proxy)

/-- Adds a message to a field if a check of the object fails, and removes it otherwise. -/
def delegate (x : Instance) (proxy : Option Store) (check : Instance → Bool) (failure : Message)
    (field : String) : Except Error (Option Message) × Instance × Option Store :=
  if field.isEmpty then (.error .missingFieldName, x, proxy)
  else if check x then
    let (x, proxy) := x.removeFrom proxy failure field
    (.ok none, x, proxy)
  else
    match x.addTo proxy failure field with
    | .error e => (.error e, x, proxy)
    | .ok (x, proxy) => (.ok (some failure), x, proxy)

/-- The messages of every registered field and of every field with rules, as a map; those with rules
that are not registered have none, and they stay unregistered. -/
def fieldMessages (x : Instance) (b : RuleBook) : List (String × List Message) :=
  b.names.foldl Store.withEntry x.store.snapshot

end Instance

end FieldRules
