/-
Rule tables: what a type declares about its fields.

* `RuleTable`: fields with their declared rules, and handlers;
* `RuleTable.field`, `RuleTable.handler`: declaring a field, which adds to the
  rules that the field has already, and a handler;
* `RuleTable.compile`: the rule book of a type; the first rule in order that
  makes no sense decides the error.
-/
import FieldRules.RuleBook
import FieldRules.Rule.Compiled

namespace FieldRules

/-- The declarations of a type. -/
structure RuleTable where
  /-- The fields in the order of their first declaration, with their rules. -/
  fields : List (Field × List RuleDecl)
  /-- The handlers that rules may name. -/
  handlers : Handlers

namespace RuleTable

/-- No declarations. -/
def empty : RuleTable := ⟨[], .empty⟩

/-- Declares rules for a field. -/
def insertField (f : Field) (rules : List RuleDecl) :
    List (Field × List RuleDecl) → List (Field × List RuleDecl)
  | [] => [(f, rules)]
  | (g, existing) :: rest =>
    if g.name = f.name then (g, existing ++ rules) :: rest
    else (g, existing) :: insertField f rules rest

/-- Declares rules for a field. A field that was declared before keeps its place and the way it is
read; the rules are added at the end of its own. -/
def field (t : RuleTable) (f : Field) (rules : List RuleDecl) : RuleTable :=
  { t with fields := insertField f rules t.fields }

/-- Declares a handler, in place of the one that had its name. -/
def handler (t : RuleTable) (name : String) (h : Handler) : RuleTable :=
  { t with handlers := t.handlers.insert name h }

/-- How many fields are declared. -/
def size (t : RuleTable) : Nat :=
  t.fields.length

/-- The rules of one field. -/
def compileEntry (typeName : String) (hs : Handlers) (e : Field × List RuleDecl) :
    Except Error RuleBook.Entry :=
  (e.2.mapM fun (d : RuleDecl) => d.compile typeName e.1.name hs).map (RuleBook.Entry.mk e.1)

/-- The rule book of the type. -/
def compile (t : RuleTable) (typeName : String) : Except Error RuleBook :=
  (t.fields.mapM (compileEntry typeName t.handlers)).map fun entries =>
    ⟨typeName, entries, t.handlers⟩

/-- A display of the declarations; handlers go by their names. -/
def outline (t : RuleTable) : String :=
  let entry (e : Field × List RuleDecl) :=
    Text.Outline.tuple "" [e.1.outline, Text.Outline.list (e.2.map RuleDecl.outline)]
  Text.Outline.record "RuleSet"
    [("fields", Text.Outline.list (t.fields.map entry)),
      ("handlers", Text.Outline.list (t.handlers.names.map Text.quoted))]

end RuleTable

/-- One more rule for a field of the type of the book, with the handlers of the type. -/
def RuleBook.compileRule (b : RuleBook) (field : String) (d : RuleDecl) : Except Error Rule :=
  d.compile b.typeName field b.handlers

end FieldRules
