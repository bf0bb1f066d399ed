/-
Handlers: functions with a name that have a say in the verdict on a field.

* `Handler`: from the object with its messages, the message that would be
  reported, if any, and the field, to the message that is reported;
* `Handler.veto`, `pass`, `replace`, `default`, `invert`, `unlessAt`, `annotate`:
  ready-made handlers;
* `NamedHandler`, `Handlers`: a handler with its name, and the handlers of a
  type; of two handlers with one name the later counts.
-/
import FieldRules.Instance.Basic
import FieldRules.Resolve

namespace FieldRules

/-- Decides what is reported on a field, given what would be. It may look at the messages that the
object has. -/
abbrev Handler := Instance → Option Message → Field → Option Message

namespace Handler

/-- Reports nothing. -/
def veto : Handler := fun _ _ _ => none

/-- Reports what would be reported. -/
def pass : Handler := fun _ candidate _ => candidate

/-- Reports the message, come what may. -/
def replace (m : Message) : Handler := fun _ _ _ => some m

/-- Reports what would be reported, or else the message. -/
def default (m : Message) : Handler := fun _ candidate _ => candidate.or (some m)

/-- Reports the message where nothing would be reported, and only there. -/
def invert (m : Message) : Handler := fun _ candidate _ =>
  match candidate with
  | some _ => none
  | none => some m

/-- Whether the value at the end of the path has this text. A text that is no path, or a path that
leads nowhere, never has. -/
def holdsAt (owner : Entity) (path literal : String) : Bool :=
  match Path.parse path with
  | .error _ => false
  | .ok p =>
    match owner.resolve p with
    | .error _ => false
    | .ok v => v.literal? == some literal

/-- Reports what would be reported, unless the value at the end of the path has this text. -/
def unlessAt (path literal : String) : Handler := fun owner candidate _ =>
  if holdsAt owner.object path literal then none else candidate

/-- Reports a text about what would be reported: the text of the message, the field, the kind and
the text that would be reported, and the value of the field, with bars between them. -/
def annotate (m : Message) : Handler := fun owner candidate field =>
  candidate.map fun c =>
    let v := field.get owner.object
    ⟨m.kind, m.text ++ field.name ++ "|" ++ c.kind.name ++ "|" ++ c.text ++ "|" ++
      v.literal?.getD v.kindName⟩

end Handler

/-- A handler with the name it was asked for by. -/
structure NamedHandler where
  /-- The name. -/
  name : String
  /-- The handler. -/
  run : Handler

namespace NamedHandler

/-- A display of an interceptor, by its name. -/
def outline (h : NamedHandler) : String :=
  Text.Outline.record "Interceptor" [("name", Text.quoted h.name)]

end NamedHandler

/-- The handlers of a type, each name once. -/
structure Handlers where
  /-- Names and handlers. -/
  entries : List (String × Handler)

namespace Handlers

/-- No handlers. -/
def empty : Handlers := ⟨[]⟩

/-- The handler of this name. -/
def find? (hs : Handlers) (name : String) : Option Handler :=
  hs.entries.lookup name

/-- Gives a name a handler, in place of the one it had. -/
def insert (hs : Handlers) (name : String) (h : Handler) : Handlers :=
  ⟨hs.entries.filter (fun e => e.1 != name) ++ [(name, h)]⟩

/-- The names. -/
def names (hs : Handlers) : List String :=
  hs.entries.map Prod.fst

/-- The name just given a handler has it. -/
theorem find?_insert_self (hs : Handlers) (name : String) (h : Handler) :
    (hs.insert name h).find? name = some h := by
  simp only [insert, find?]
  induction hs.entries with
  | nil => simp
  | cons e es ih =>
    rcases e with ⟨n, g⟩
    by_cases hn : n = name
    · simpa [hn] using ih
    · have hne : (name == n) = false := by simpa using fun h => hn h.symm
      simp only [List.filter_cons, bne_iff_ne, ne_eq, hn, not_false_eq_true, if_true,
        List.cons_append, List.lookup_cons, hne]
      exact ih

/-- To give a name a handler leaves the other names theirs. -/
theorem find?_insert_of_ne (hs : Handlers) {name other : String} (h : Handler)
    (hne : other ≠ name) : (hs.insert name h).find? other = hs.find? other := by
  have hb : (other == name) = false := by simpa using hne
  simp only [insert, find?]
  induction hs.entries with
  | nil => simp [List.lookup_cons, hb]
  | cons e es ih =>
    rcases e with ⟨n, g⟩
    by_cases hn : n = name
    · subst hn
      simpa [List.lookup_cons, hb] using ih
    · simp only [List.filter_cons, bne_iff_ne, ne_eq, hn, not_false_eq_true, if_true,
        List.cons_append, List.lookup_cons]
      rw [ih]

end Handlers

end FieldRules
