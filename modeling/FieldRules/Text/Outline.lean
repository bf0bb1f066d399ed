/-
Outlines: one-line displays of records, wrapped values and lists, put together
from displays of their parts.

* `record`: a name and its entries in braces, `Name { a: 1, b: 2 }`;
* `openRecord`: a record of which only some entries are shown;
* `tuple`: a name and its arguments in parentheses; a nameless one is a pair;
* `list`, `option`, `flag`: the remaining shapes.
-/
namespace FieldRules.Text.Outline

/-- The entries of a record, each with its label. -/
def entries (es : List (String × String)) : String :=
  ", ".intercalate (es.map fun e => e.1 ++ ": " ++ e.2)

/-- A record with all its entries; one without any is its bare name. -/
def record (name : String) (es : List (String × String)) : String :=
  if es.isEmpty then name else name ++ " \x7b " ++ entries es ++ " \x7d"

/-- A record that shows the given entries and keeps others to itself. -/
def openRecord (name : String) (es : List (String × String)) : String :=
  if es.isEmpty then name ++ " \x7b .. \x7d" else name ++ " \x7b " ++ entries es ++ ", .. \x7d"

/-- A name with its arguments. -/
def tuple (name : String) (items : List String) : String :=
  name ++ "(" ++ ", ".intercalate items ++ ")"

/-- A list of displays. -/
def list (items : List String) : String :=
  "[" ++ ", ".intercalate items ++ "]"

/-- An optional part is wrapped when it is there. -/
def option : Option String → String
  | none => "None"
  | some s => tuple "Some" [s]

/-- A truth value. -/
def flag (b : Bool) : String :=
  if b then "true" else "false"

end FieldRules.Text.Outline
