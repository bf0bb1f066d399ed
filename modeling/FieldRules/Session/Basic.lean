/-
Sessions: named objects under validation, together with all that they share.

* `Target`: an object under validation with the names of its listeners and its
  channel;
* `Session`: what is set from outside, the models, their rule books, the shared
  localizer, the targets and the channels; a channel outlives its target as long
  as somebody reads it;
* `Session.deliver`: hands what a target published to its listeners and to its
  channel;
* `Session.discard`: gives a target up and closes its channel.
-/
import FieldRules.Action
import FieldRules.Channel
import FieldRules.Settings

namespace FieldRules

/-- An object under validation in a session. -/
structure Target where
  /-- The name of its model. -/
  model : String
  /-- The object, the localizer it was given, and its messages. -/
  subject : Instance
  /-- The listeners, in the order in which they are called. -/
  listeners : List String
  /-- The place of its channel among the channels of the session. -/
  channel : Nat

/-- The target with other messages. -/
def Target.withStore (t : Target) (store : Store) : Target :=
  { t with subject := { t.subject with store := store } }

/-- A model in a session. -/
structure SessionModel where
  /-- The type of objects. -/
  model : Model
  /-- Whether its rules are fixed; their book is then no part of the registry. -/
  fixed : Bool
  /-- Whether objects keep the localizer they were given; otherwise they share one. -/
  ownLocalizer : Bool

/-- Objects under validation and what they share. -/
structure Session where
  /-- What is set from outside, once for the whole session. -/
  settings : Settings
  /-- The models by their names. -/
  models : List (String × SessionModel)
  /-- The rule books of the models whose rules can be declared. -/
  registry : Registry
  /-- The rule books of the models whose rules are fixed. -/
  fixedBooks : Registry
  /-- The shared localizer. -/
  service : Option Localizer
  /-- The targets by their names. -/
  targets : List (String × Target)
  /-- The channels of all targets that ever were. -/
  channels : List (Channel Event)

namespace Session

/-- A session with these models and settings, and nothing else. -/
def start (models : List (String × SessionModel)) (settings : Settings := .standard) : Session :=
  ⟨settings, models, .empty, .empty, none, [], []⟩

/-- The model of objects that have no rules. -/
def bareModel : SessionModel :=
  ⟨⟨"", .empty⟩, false, false⟩

/-- The model of this name. -/
def model (s : Session) (name : String) : SessionModel :=
  (s.models.lookup name).getD bareModel

/-- The target of this name. -/
def target? (s : Session) (name : String) : Option Target :=
  s.targets.lookup name

/-- Gives a name a target, in place of the one it had. -/
def putTarget (s : Session) (name : String) (t : Target) : Session :=
  { s with targets := (name, t) :: s.targets.filter (·.1 != name) }

/-- Gives the target of this name other messages. -/
def putStore (s : Session) (name : String) (store : Store) : Session :=
  match s.target? name with
  | some t => s.putTarget name (t.withStore store)
  | none => s

/-- The messages of the target of this name. -/
def fieldsOf (s : Session) (name : String) : Option (List (String × List Message)) :=
  (s.target? name).map (·.subject.store.fields)

/-- The books that hold those of a model. -/
def booksFor (s : Session) (m : SessionModel) : Registry :=
  if m.fixed then s.fixedBooks else s.registry

/-- Keeps the books that hold those of a model. -/
def withBooksFor (s : Session) (m : SessionModel) (books : Registry) : Session :=
  if m.fixed then { s with fixedBooks := books } else { s with registry := books }

/-- The object of a target with the localizer that counts for it now. -/
def instanceOf (s : Session) (t : Target) : Instance :=
  if (s.model t.model).ownLocalizer then t.subject
  else { t.subject with localizer := s.service }

/-- Delivers what a target published: to its listeners, each event to all of them before the next,
and to its channel. -/
def deliver (s : Session) (name : String) : List (String × Event) × Session :=
  match s.target? name with
  | none => ([], s)
  | some t =>
    let (events, store) := t.subject.store.collect
    let heard := events.flatMap fun e => t.listeners.map fun l => (l, e)
    let s := s.putTarget name (t.withStore store)
    (heard, { s with channels := s.channels.modify t.channel (·.sendAll events) })

/-- Reads from the first channel that has something for the reader. -/
def readFirst {β : Type} (read : Channel Event → Option β × Channel Event) :
    List (Channel Event) → Option β × List (Channel Event)
  | [] => (none, [])
  | c :: rest =>
    match read c with
    | (some b, c) => (some b, c :: rest)
    | (none, _) =>
      let (b, rest) := readFirst read rest
      (b, c :: rest)

/-- Whether some channel has the receiver. -/
def hasReceiver (s : Session) (name : String) : Bool :=
  s.channels.any fun c => (c.receiver? name).isSome

/-- Removes the receiver from all channels. -/
def dropReceiver (s : Session) (name : String) : Session :=
  { s with channels := s.channels.map (·.drop name) }

/-- Gives up a target; its channel has no sender left. -/
def discard (s : Session) (name : String) : Session :=
  match s.target? name with
  | none => s
  | some t =>
    { s with
      targets := s.targets.filter (·.1 != name)
      channels := s.channels.modify t.channel Channel.close }

/-- A display of the messages of a target. -/
def outlineOf (s : Session) (t : Target) : String :=
  let field (e : String × List Message) :=
    Text.Outline.tuple "" [Text.quoted e.1, Text.Outline.list (e.2.map Message.outline)]
  let subscribers := (s.channels[t.channel]?.map (·.receivers.length)).getD 0
  Text.Outline.record "ValidationState"
    [("fields", Text.Outline.list (t.subject.store.fields.map field)),
      ("listeners", toString t.listeners.length), ("subscribers", toString subscribers)]

end Session

end FieldRules
