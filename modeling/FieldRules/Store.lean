/-
Stores: the current messages of the fields of one object.

* `Event`: a field together with all its messages, after a change;
* `Store`: the registered fields in order, and the events published since they
  were last collected;
* `Store.register`: gives a field an empty list, without an event;
* `Store.commit`: replaces the list of a field and publishes it; every other
  change goes through it;
* `Store.add`, `remove`, `clearField`, `clear`, `commitAll`: the changes;
* `Store.messages`, `has`, `isValid`, `snapshot`: the questions.
-/
import FieldRules.Error
import FieldRules.Message

namespace FieldRules

/-- What is published when the messages of a field change: all that it has now. -/
structure Event where
  /-- The field. -/
  field : String
  /-- Its messages. -/
  messages : List Message
  deriving DecidableEq

/-- The field of the event has no messages. -/
def Event.isValid (e : Event) : Bool :=
  e.messages.isEmpty

/-- The messages of the fields of an object. -/
structure Store where
  /-- The registered fields in the order of registration, each with its messages. -/
  fields : List (String × List Message)
  /-- The events that were published and not yet collected, oldest first. -/
  published : List Event

namespace Store

/-- A store without fields. -/
def empty : Store := ⟨[], []⟩

/-- The names of the registered fields. -/
def names (s : Store) : List String :=
  s.fields.map Prod.fst

/-- Whether the field is registered. -/
def isRegistered (s : Store) (field : String) : Bool :=
  s.names.contains field

/-- The messages of a field; one that is not registered has none. -/
def messages (s : Store) (field : String) : List Message :=
  (s.fields.lookup field).getD []

/-- Registers a field, with no messages, unless it is registered already. -/
def register (s : Store) (field : String) : Store :=
  if s.isRegistered field then s else { s with fields := s.fields ++ [(field, [])] }

/-- Registers fields in order. -/
def registerAll (s : Store) (fields : List String) : Store :=
  fields.foldl register s

/-- Publishes the messages that a field has now. -/
def notify (s : Store) (field : String) : Store :=
  { s with published := s.published ++ [⟨field, s.messages field⟩] }

/-- Replaces the list of a field, or adds the field at the end. -/
def replace (field : String) (ms : List Message) :
    List (String × List Message) → List (String × List Message)
  | [] => [(field, ms)]
  | (name, old) :: rest =>
    if name = field then (name, ms) :: rest else (name, old) :: replace field ms rest

/-- Gives a field these messages, in place of those that it had, and publishes them. -/
def commit (s : Store) (field : String) (ms : List Message) : Store :=
  { s with fields := replace field ms s.fields }.notify field

/-- Adds a message to a field, unless its text is there already. Registers the field. -/
def add (s : Store) (m : Message) (field : String) : Except Error Store :=
  if field.isEmpty then .error .missingFieldName
  else if hasText (s.messages field) m.text then .ok s
  else .ok (s.commit field (s.messages field ++ [m]))

/-- Removes the first message with the text of the given one. Tells whether there was one. -/
def remove (s : Store) (m : Message) (field : String) : Bool × Store :=
  if hasText (s.messages field) m.text then
    (true, s.commit field ((s.messages field).eraseP fun n => n.text == m.text))
  else (false, s)

/-- Removes all messages of a field. Nothing happens to a field that is not registered. -/
def clearField (s : Store) (field : String) : Store :=
  if s.isRegistered field then s.commit field [] else s

/-- Removes all messages of all fields. -/
def clear (s : Store) : Store :=
  s.names.foldl clearField s

/-- The fields that have messages and are not among the given ones. -/
def stale (s : Store) (fields : List String) : List String :=
  (s.fields.filter fun e => !e.2.isEmpty && !fields.contains e.1).map Prod.fst

/-- Gives fields their messages, in order, after the messages of all other fields were removed. -/
def commitAll (s : Store) (results : List (String × List Message)) : Store :=
  let cleared := (s.stale (results.map Prod.fst)).foldl clearField s
  results.foldl (fun s e => s.commit e.1 e.2) cleared

/-! ### Questions -/

/-- Whether a message is of the kind that is asked for, if any is. -/
def isOfKind (kind : Option MessageKind) (m : Message) : Bool :=
  kind.all (m.kind == ·)

/-- Whether there are messages, of one kind or of any. Asked about a registered field it answers for
this field, asked about any other name or none it answers for all fields. -/
def has (s : Store) (field : Option String) (kind : Option MessageKind) : Bool :=
  match field.filter s.isRegistered with
  | some name => (s.messages name).any (isOfKind kind)
  | none => s.fields.any fun e => e.2.any (isOfKind kind)

/-- Whether there are no messages at all. -/
def isValid (s : Store) : Bool :=
  !s.has none none

/-- The messages of every registered field, as a map from names to messages: each entry takes the
place of the one that its name had before. -/
def snapshot (s : Store) : List (String × List Message) :=
  s.fields.foldl (fun map e => replace e.1 e.2 map) []

/-- A map in which the field has an entry: the one that is there, or else one without messages. -/
def withEntry (map : List (String × List Message)) (field : String) :
    List (String × List Message) :=
  if (map.lookup field).isSome then map else replace field [] map

/-- The events published since they were last collected, and the store without them. -/
def collect (s : Store) : List Event × Store :=
  (s.published, { s with published := [] })

/-! ### What the operations do to one field -/

theorem lookup_replace_self (field : String) (ms : List Message)
    (fs : List (String × List Message)) : (replace field ms fs).lookup field = some ms := by
  induction fs with
  | nil => simp [replace]
  | cons e rest ih =>
    obtain ⟨name, old⟩ := e
    by_cases h : name = field
    · simp [replace, h]
    · have hb : (field == name) = false := by simpa using Ne.symm h
      rw [replace, if_neg h, List.lookup_cons, hb]
      exact ih

theorem lookup_replace_of_ne {field other : String} (hne : other ≠ field) (ms : List Message)
    (fs : List (String × List Message)) :
    (replace field ms fs).lookup other = fs.lookup other := by
  have hb : (other == field) = false := by simpa using hne
  induction fs with
  | nil => simp [replace, List.lookup_cons, hb]
  | cons e rest ih =>
    obtain ⟨name, old⟩ := e
    by_cases h : name = field
    · subst h
      rw [replace, if_pos rfl, List.lookup_cons, List.lookup_cons, hb]
    · rw [replace, if_neg h, List.lookup_cons, List.lookup_cons, ih]

/-- A field has the messages that were committed to it. -/
@[simp] theorem messages_commit_self (s : Store) (field : String) (ms : List Message) :
    (s.commit field ms).messages field = ms := by
  simp only [messages, commit, notify, lookup_replace_self, Option.getD_some]

/-- A commit to a field leaves the messages of the other fields. -/
theorem messages_commit_of_ne (s : Store) {field other : String} (hne : other ≠ field)
    (ms : List Message) : (s.commit field ms).messages other = s.messages other := by
  simp only [messages, commit, notify, lookup_replace_of_ne hne]

/-- A commit publishes the messages that were committed. -/
@[simp] theorem published_commit (s : Store) (field : String) (ms : List Message) :
    (s.commit field ms).published = s.published ++ [⟨field, ms⟩] := by
  simp only [commit, notify, messages, lookup_replace_self, Option.getD_some]

/-- Registering publishes nothing. -/
@[simp] theorem published_register (s : Store) (field : String) :
    (s.register field).published = s.published := by
  unfold register
  split <;> rfl

/-- Registering changes no messages. -/
@[simp] theorem messages_register (s : Store) (field other : String) :
    (s.register field).messages other = s.messages other := by
  unfold register
  split
  · rfl
  · simp only [messages]
    generalize s.fields = fs
    induction fs with
    | nil =>
      by_cases h : other = field
      · simp [h]
      · have hb : (other == field) = false := by simpa using h
        simp [List.lookup_cons, hb]
    | cons e rest ih =>
      obtain ⟨name, old⟩ := e
      rw [List.cons_append, List.lookup_cons, List.lookup_cons]
      cases other == name
      · exact ih
      · rfl

end Store

/-- Fields with their messages in the order of their names. -/
def sortByName (fields : List (String × List Message)) : List (String × List Message) :=
  fields.mergeSort fun a b => a.1 ≤ b.1

end FieldRules
