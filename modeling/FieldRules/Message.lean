/-
Messages: what a failing rule has to say.

* `Message`: a text and whether it is an error or a warning;
* `Message.sameText`: messages count as the same when their texts are equal,
  whatever their kinds;
* `insertDistinct`: adds a message to a list that does not have its text yet;
* `firstText`: the text that a single line has room for.
-/
import FieldRules.Text.Outline
import FieldRules.Text.Quoted

namespace FieldRules

/-- How much a message weighs. -/
inductive MessageKind where
  /-- What must be mended. -/
  | error
  /-- What deserves a look. -/
  | warning
  deriving DecidableEq

namespace MessageKind

/-- The word for the kind. -/
def name : MessageKind → String
  | error => "error"
  | warning => "warning"

/-- The kind that goes by this word. -/
def ofName? (s : String) : Option MessageKind :=
  if s = "error" then some error else if s = "warning" then some warning else none

theorem ofName?_name (k : MessageKind) : ofName? k.name = some k := by
  cases k <;> rfl

/-- The label of the kind in displays. -/
def label : MessageKind → String
  | error => "Error"
  | warning => "Warning"

end MessageKind

/-- A text for the user, with its kind. -/
structure Message where
  /-- Error or warning. -/
  kind : MessageKind
  /-- What is shown. -/
  text : String
  deriving DecidableEq

namespace Message

/-- An error with this text. -/
def error (text : String) : Message := ⟨.error, text⟩

/-- A warning with this text. -/
def warning (text : String) : Message := ⟨.warning, text⟩

/-- Two messages say the same. -/
def sameText (a b : Message) : Bool :=
  a.text == b.text

/-- A display of the message. -/
def outline (m : Message) : String :=
  Text.Outline.tuple m.kind.label [Text.quoted m.text]

end Message

/-- Whether some message of the list has this text. -/
def hasText (ms : List Message) (text : String) : Bool :=
  ms.any fun m => m.text == text

/-- Adds a message at the end, unless its text is there already. -/
def insertDistinct (ms : List Message) (m : Message) : List Message :=
  if hasText ms m.text then ms else ms ++ [m]

/-- The text of the first message, empty if there is none. -/
def firstText (ms : List Message) : String :=
  (ms.head?.map Message.text).getD ""

end FieldRules
