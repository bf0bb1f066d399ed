/-
Messages as JSON.

* `Message.toJson`: an object with the members `kind` and `text`;
* `Message.ofJson?`: reads an object with these two members, each once, in any
  order and among others, or a list of the two values; in an object the kind may
  also be an object, with the name of the kind as its only member.
-/
import FieldRules.Json.Skip
import FieldRules.Message

namespace FieldRules

open Json

namespace Message

/-- The message as an object. -/
def toJsonChars (m : Message) : List Char :=
  '\x7b' :: quote "kind".toList ++ ':' :: quote m.kind.name.toList ++
    ',' :: quote "text".toList ++ ':' :: quote m.text.toList ++ ['\x7d']

/-- The message as an object. -/
def toJson (m : Message) : String :=
  String.ofList m.toJsonChars

/-- The members of a message read so far. -/
structure Members where
  /-- The kind, if it was there. -/
  kind : Option MessageKind
  /-- The text, if it was there. -/
  text : Option String

namespace Members

/-- The message, if both members were there. -/
def message? (ms : Members) : Option Message := do
  some ⟨← ms.kind, ← ms.text⟩

end Members

/-- Reads a value that must be a string. -/
def readText (cs : List Char) : Option (String × List Char) :=
  match skipSpace cs with
  | '"' :: r => (readString .plain r).map fun (s, rest) => (String.ofList s, rest)
  | _ => none

/-- Reads a value that must be the name of a kind. -/
def readKindName (cs : List Char) : Option (MessageKind × List Char) := do
  let (name, rest) ← readText cs
  let kind ← MessageKind.ofName? name
  some (kind, rest)

/-- Reads what follows the name in an object that has a kind as its only member: a null, and the
end of the object. -/
def endKindObject (cs : List Char) : Option (List Char) :=
  match skipSpace cs with
  | ':' :: r =>
    match skipSpace r with
    | 'n' :: 'u' :: 'l' :: 'l' :: r =>
      match skipSpace r with
      | '\x7d' :: r => some r
      | _ => none
    | _ => none
  | _ => none

/-- Reads the value of the member `kind`: the name of a kind, or an object whose only member has
that name and is null. -/
def readKind (cs : List Char) : Option (MessageKind × List Char) :=
  match skipSpace cs with
  | '\x7b' :: r =>
    (readKindName r).bind fun (kind, rest) => (endKindObject rest).map fun rest => (kind, rest)
  | r => readKindName r

/-- Reads the value of the member with this key. A key that was there before is refused, a key that
says nothing about messages is skipped together with its value. -/
def readMember (key : String) (ms : Members) (cs : List Char) : Option (Members × List Char) :=
  if key = "kind" then
    if ms.kind.isSome then none
    else (readKind cs).map fun (kind, rest) => ({ ms with kind := some kind }, rest)
  else if key = "text" then
    if ms.text.isSome then none
    else (readText cs).map fun (text, rest) => ({ ms with text := some text }, rest)
  else (skipAny cs).map fun rest => (ms, rest)

/-- Reads members, at least one, and the brace after them, with at most `fuel` members. -/
def readMembers : Nat → Members → List Char → Option (Members × List Char)
  | 0, _, _ => none
  | fuel + 1, ms, cs =>
    match readText cs with
    | none => none
    | some (key, rest) =>
      match skipSpace rest with
      | ':' :: r =>
        match readMember key ms r with
        | none => none
        | some (ms, rest) =>
          match skipSpace rest with
          | ',' :: r => readMembers fuel ms r
          | '\x7d' :: r => some (ms, r)
          | _ => none
      | _ => none

/-- Reads the kind and the text of a list, and the bracket after them. -/
def readPair (cs : List Char) : Option (Message × List Char) :=
  match readKindName cs with
  | none => none
  | some (kind, rest) =>
    match skipSpace rest with
    | ',' :: r =>
      match readText r with
      | none => none
      | some (text, rest) =>
        match skipSpace rest with
        | ']' :: r => some (⟨kind, text⟩, r)
        | _ => none
    | _ => none

/-- Reads a message from the characters of its JSON, with nothing after it but white space. -/
def ofJsonChars? (cs : List Char) : Option Message :=
  let found :=
    match skipSpace cs with
    | '\x7b' :: r =>
      (readMembers r.length ⟨none, none⟩ r).bind fun (ms, rest) =>
        ms.message?.map fun m => (m, rest)
    | '[' :: r => readPair r
    | _ => none
  found.bind fun (m, rest) => if (skipSpace rest).isEmpty then some m else none

/-- Reads a message from its JSON. -/
def ofJson? (s : String) : Option Message :=
  ofJsonChars? s.toList

end Message

end FieldRules
