/-
Rule books: the rules of a type, ready to be applied to its objects.

* `RuleBook.Entry`: a field with its rules;
* `RuleBook`: the entries of a type in the order of declaration, and its
  handlers;
* `Entry.evaluate`: the distinct messages of the rules of a field, in order, up
  to the first error; and the entry afterwards, since numeric rules keep the
  width of the first number they see;
* `RuleBook.evaluate`, `RuleBook.evaluateField`: all fields, or one of them.
-/
import FieldRules.Rule.Basic

namespace FieldRules

/-- A field with its rules. -/
structure RuleBook.Entry where
  /-- The field. -/
  field : Field
  /-- The rules, in the order of declaration. -/
  rules : List Rule

/-- The rules of a type. -/
structure RuleBook where
  /-- The name of the type. -/
  typeName : String
  /-- The fields that have rules. -/
  entries : List RuleBook.Entry
  /-- The handlers of the type. -/
  handlers : Handlers

namespace RuleBook

namespace Entry

/-- The name of the field. -/
def name (e : Entry) : String :=
  e.field.name

/-- Applies rules in order, up to the first error. Gives the messages so far, `found`, with the new
ones whose texts they do not have yet, and the rules afterwards; rules behind an error see
nothing. -/
def runRules (field : Field) (owner : Instance) (localizer : Option Localizer) :
    List Rule → List Message → Except Error (List Message) × List Rule
  | [], found => (.ok found, [])
  | r :: rest, found =>
    match r.run field owner localizer with
    | (.error e, r) => (.error e, r :: rest)
    | (.ok m, r) =>
      let found := m.elim found (insertDistinct found)
      let (result, rest) := runRules field owner localizer rest found
      (result, r :: rest)

/-- The messages of the rules of the field, and the entry afterwards. -/
def evaluate (e : Entry) (owner : Instance) (localizer : Option Localizer) :
    Except Error (List Message) × Entry :=
  let (result, rules) := runRules e.field owner localizer e.rules []
  (result, { e with rules := rules })

/-- A display of the entry. -/
def outline (e : Entry) : String :=
  Text.Outline.record "FieldEntry"
    [("descriptor", e.field.outline), ("rules", Text.Outline.list (e.rules.map Rule.outline))]

end Entry

/-- The names of the fields. -/
def names (b : RuleBook) : List String :=
  b.entries.map Entry.name

/-- The entry of a field. -/
def entry? (b : RuleBook) (name : String) : Option Entry :=
  b.entries.find? (·.name == name)

/-- How many rules there are. -/
def ruleCount (b : RuleBook) : Nat :=
  (b.entries.flatMap (·.rules)).length

/-- The messages of every field, up to the first error, and the entries afterwards. -/
def evaluateEntries (owner : Instance) (localizer : Option Localizer) :
    List Entry → Except Error (List (String × List Message)) × List Entry
  | [] => (.ok [], [])
  | e :: rest =>
    match e.evaluate owner localizer with
    | (.error err, e) => (.error err, e :: rest)
    | (.ok messages, e) =>
      let (result, rest) := evaluateEntries owner localizer rest
      (result.map ((e.name, messages) :: ·), e :: rest)

/-- The messages of every field, and the book afterwards. -/
def evaluate (b : RuleBook) (owner : Instance) (localizer : Option Localizer) :
    Except Error (List (String × List Message)) × RuleBook :=
  let (result, entries) := evaluateEntries owner localizer b.entries
  (result, { b with entries := entries })

/-- Puts the entry in the place of the one for its field. -/
def replaceEntry (e : Entry) : List Entry → List Entry
  | [] => []
  | old :: rest => if old.name = e.name then e :: rest else old :: replaceEntry e rest

/-- The messages of one field, given its entry, and the book afterwards. -/
def evaluateEntry (b : RuleBook) (e : Entry) (owner : Instance) (localizer : Option Localizer) :
    Except Error (List Message) × RuleBook :=
  let (result, e) := e.evaluate owner localizer
  (result, { b with entries := replaceEntry e b.entries })

/-- What each rule of an entry reports by itself, whatever the others do, and the entry
afterwards. -/
def Entry.trial (e : Entry) (owner : Instance) (localizer : Option Localizer) :
    List (Except Error (Option Message)) × Entry :=
  let outcomes := e.rules.map fun r => r.run e.field owner localizer
  (outcomes.map Prod.fst, { e with rules := outcomes.map Prod.snd })

/-- What each rule of the book reports by itself, field by field, and the book afterwards. -/
def trial (b : RuleBook) (owner : Instance) (localizer : Option Localizer) :
    List (String × List (Except Error (Option Message))) × RuleBook :=
  let outcomes := b.entries.map fun e => e.trial owner localizer
  ((b.names.zip (outcomes.map Prod.fst)), { b with entries := outcomes.map Prod.snd })

/-- A display of the book; handlers go by their names. -/
def outline (b : RuleBook) : String :=
  Text.Outline.record "FieldRuleMap"
    [("type_name", Text.quoted b.typeName),
      ("fields", Text.Outline.list (b.entries.map Entry.outline)),
      ("handlers", Text.Outline.list (b.handlers.names.map Text.quoted))]

end RuleBook

end FieldRules
