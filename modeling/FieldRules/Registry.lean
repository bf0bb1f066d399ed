/-
The registry: the rule books of the types that were used so far.

* `Model`: a type of objects with its declarations;
* `Registry.getOrBuild`: the book of a type, compiled from the declarations the
  first time; declarations that do not compile leave nothing behind;
* `Registry.update`: keeps a book after its rules were applied.
-/
import FieldRules.RuleTable

namespace FieldRules

/-- A type of objects. -/
structure Model where
  /-- The name of the type. -/
  typeName : String
  /-- What it declares. -/
  rules : RuleTable

/-- The rule books in use, each under the name of its type. -/
structure Registry where
  /-- The books, oldest first. -/
  books : List (String × RuleBook)

namespace Registry

/-- No books. -/
def empty : Registry := ⟨[]⟩

/-- The book of a type, if it was built. -/
def get? (r : Registry) (typeName : String) : Option RuleBook :=
  r.books.lookup typeName

/-- Whether the book of a type was built. -/
def contains (r : Registry) (typeName : String) : Bool :=
  (r.get? typeName).isSome

/-- How many books were built. -/
def size (r : Registry) : Nat :=
  r.books.length

/-- The book of the model, built on first use. -/
def getOrBuild (r : Registry) (m : Model) : Except Error RuleBook × Registry :=
  match r.get? m.typeName with
  | some b => (.ok b, r)
  | none =>
    match m.rules.compile m.typeName with
    | .error e => (.error e, r)
    | .ok b => (.ok b, ⟨r.books ++ [(m.typeName, b)]⟩)

/-- Puts a book in the place of the one under this name. -/
def update (r : Registry) (typeName : String) (b : RuleBook) : Registry :=
  ⟨r.books.map fun e => if e.1 = typeName then (e.1, b) else e⟩

/-- A display of the registry. -/
def outline (r : Registry) : String :=
  Text.Outline.record "RuleRegistry" [("types", toString r.size)]

end Registry

end FieldRules
