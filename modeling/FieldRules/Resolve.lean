/-
Walking a path through nested objects.

* `Slot`: the end of a path, an object and the name of one of its fields;
* `Entity.locate`: the slot at the end of a path; every name but the last must
  lead to an object, and the last object must have the last name;
* `Entity.resolve`: the value in that slot.
-/
import FieldRules.Path
import FieldRules.Value

namespace FieldRules

/-- A field of an object, by its name. -/
structure Slot where
  /-- The object. -/
  owner : Entity
  /-- The name of the field. -/
  name : String

namespace Slot

/-- The value in the slot. -/
def value (s : Slot) : Value :=
  (s.owner.field? s.name).getD .null

/-- A display of the slot, with the type of its object. -/
def outline (s : Slot) : String :=
  Text.Outline.record "FieldRef"
    [("owner", Text.quoted s.owner.typeName), ("name", Text.quoted s.name)]

end Slot

namespace Entity

/-- Follows names through nested objects. Errors tell the whole path, `dotted`. -/
def walk (dotted : String) : List String → Entity → Except PathError Slot
  | [], _ => .error .empty
  | [name], e =>
    match e.field? name with
    | some _ => .ok ⟨e, name⟩
    | none => .error (.missingSegment dotted name e.typeName)
  | name :: rest, e =>
    match e.field? name with
    | some (.object inner) => walk dotted rest inner
    | some .null => .error (.nullIntermediate dotted name)
    | some _ => .error (.notAnObject dotted name)
    | none => .error (.missingSegment dotted name e.typeName)

/-- The slot at the end of the path. -/
def locate (root : Entity) (p : Path) : Except PathError Slot :=
  walk p.dotted p.segments root

/-- The value at the end of the path. -/
def resolve (root : Entity) (p : Path) : Except PathError Value :=
  (root.locate p).map Slot.value

end Entity

end FieldRules
