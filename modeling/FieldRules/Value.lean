/-
Values of fields, and the objects that hold them.

* `Value`, `Entity`: what a field holds; an entity is an object with the name
  of its type and its fields;
* `Entity.field?`, `Entity.set`: reading a field, and storing into one;
* `Value.kindName`, `Value.literal?`: the word for a kind of value in messages,
  and the text of a scalar;
* `Value.isPresent`: whether there is something in a field;
* `Field`: a declared field, a name with the function that reads it.
-/
import FieldRules.Number.Basic
import FieldRules.Text.Quoted

namespace FieldRules

mutual

/-- What a field holds. -/
inductive Value where
  /-- Nothing. -/
  | null
  /-- A truth value. -/
  | bool (flag : Bool)
  /-- A number of one of the widths. -/
  | number (n : Number)
  /-- A text. -/
  | text (s : String)
  /-- A collection, of which only the length is known. -/
  | list (length : Nat)
  /-- A nested object. -/
  | object (e : Entity)

/-- An object with named fields. Of two fields with one name the first counts. -/
structure Entity where
  /-- The name of the type of the object. -/
  typeName : String
  /-- The fields that the object has. -/
  fields : List (String × Value)

end

/-- The value of a field that the object has. -/
def Entity.field? (e : Entity) (name : String) : Option Value :=
  e.fields.lookup name

namespace Value

/-- Whether there is no value. -/
def isNull : Value → Bool
  | null => true
  | _ => false

/-- The number, if the value is one. -/
def number? : Value → Option Number
  | number n => some n
  | _ => none

/-- The text, if the value is one. -/
def text? : Value → Option String
  | text s => some s
  | _ => none

/-- The word for the kind of value; an object goes by its type. -/
def kindName : Value → String
  | null => "null"
  | bool _ => "bool"
  | number n => n.width.name
  | text _ => "string"
  | list _ => "list"
  | object e => e.typeName

/-- The text of a scalar. -/
def literal? : Value → Option String
  | bool flag => some (Text.Outline.flag flag)
  | number n => some n.text
  | text s => some s
  | null | list _ | object _ => none

/-- Whether there is something: nothing, blank text and empty collections are not enough. -/
def isPresent : Value → Bool
  | null => false
  | text s => !Text.isBlank s
  | list length => 0 < length
  | bool _ | number _ | object _ => true

/-- A display of the value; of an object it shows the type alone. -/
def outline : Value → String
  | null => "Null"
  | bool flag => Text.Outline.tuple "Bool" [Text.Outline.flag flag]
  | number n => Text.Outline.tuple "Number" [n.outline]
  | text s => Text.Outline.tuple "Text" [Text.quoted s]
  | list length => Text.Outline.tuple "List" [toString length]
  | object e => Text.Outline.tuple "Object" [Text.quoted e.typeName]

end Value

/-! ### Storing into an object -/

/-- Stores into the first field of this name, or into a new last one; without a value the fields of
this name are dropped. -/
def storeField (name : String) (value : Option Value) :
    List (String × Value) → List (String × Value)
  | [] => (value.map fun v => (name, v)).toList
  | (n, v) :: rest =>
    if n = name then
      match value with
      | some w => (n, w) :: rest
      | none => storeField name none rest
    else (n, v) :: storeField name value rest

/-- Stores at the end of a chain of names. All names but the last must lead to nested objects;
otherwise nothing is stored. -/
def Entity.set (value : Option Value) : List String → Entity → Entity
  | [], e => e
  | [name], e => { e with fields := storeField name value e.fields }
  | name :: rest, e =>
    match e.field? name with
    | some (.object inner) =>
      { e with fields := storeField name (some (.object (inner.set value rest))) e.fields }
    | _ => e

/-! ### Declared fields -/

/-- A declared field: its name, and how its value is read off an object. -/
structure Field where
  /-- The name of the field. -/
  name : String
  /-- The value of the field. -/
  get : Entity → Value

namespace Field

/-- The field that reads what the object holds under `key`, nothing if it has no such field. -/
def ofKey (name key : String) : Field where
  name := name
  get e := (e.field? key).getD .null

/-- A display that shows the name of the field. -/
def outline (f : Field) : String :=
  Text.Outline.openRecord "FieldDescriptor" [("name", Text.quoted f.name)]

end Field

end FieldRules
