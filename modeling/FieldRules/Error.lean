/-
Defects of declarations and of the objects they are applied to.

A rule that fails is no defect: it yields a message. Here are the causes for
which a rule, a declaration or a call has no answer.

* `Error`: the causes;
* `Error.message`: their wording;
* `Error.isLookup`: the causes that are names without a meaning.
-/
import FieldRules.Number.Basic
import FieldRules.Path

namespace FieldRules

/-- Why there is no answer. -/
inductive Error where
  /-- A rule was declared in a way that makes no sense for it. -/
  | configuration (typeName field rule reason : String)
  /-- A value is not of the width that its rule compares. -/
  | typeMismatch (field expected found : String)
  /-- A bound is no number of the width that its rule compares. -/
  | conversion (literal : String) (width : Width)
  /-- A rule names a handler that its type does not have. -/
  | missingHandler (handler typeName : String)
  /-- A text is no path, or a path leads nowhere. -/
  | path (cause : PathError)
  /-- A field was neither declared nor registered. -/
  | unknownField (field typeName : String)
  /-- A call needs a field and got an empty name. -/
  | missingFieldName
  deriving DecidableEq

namespace Error

/-- The wording of the error. -/
def message : Error → String
  | configuration typeName field rule reason =>
    rule ++ " rule on " ++ typeName ++ "." ++ field ++ " is misconfigured: " ++ reason
  | typeMismatch field expected found =>
    "field '" ++ field ++ "' holds a " ++ found ++ " value but the rule is bound to " ++ expected
  | conversion literal width =>
    "cannot convert '" ++ literal ++ "' into a " ++ width.name ++ " bound"
  | missingHandler handler typeName =>
    "missing '" ++ handler ++ "' validation handler for " ++ typeName
  | path cause => cause.message
  | unknownField field typeName => "'" ++ field ++ "' is not a registered field of " ++ typeName
  | missingFieldName => "a field name must be supplied"

/-- Whether a name, of a handler, of a field or in a path, led nowhere. -/
def isLookup : Error → Bool
  | missingHandler .. | path _ | unknownField .. => true
  | configuration .. | typeMismatch .. | conversion .. | missingFieldName => false

end Error

/-- The outcome of a path as the outcome of a rule. -/
def orPathError {α : Type} (r : Except PathError α) : Except Error α :=
  r.mapError .path

end FieldRules
