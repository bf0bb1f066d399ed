/-
Field paths: names joined by points, with an optional `!` in front.

* `Path`: the names from the outermost object inwards, and whether the path is
  negated;
* `PathError`: why a text is no path, or a path leads nowhere;
* `Path.parse`: blank characters around the text, after the `!` and around each
  name do not matter;
* `Path.dotted`, `Path.display`: the names joined by points, without and with
  the `!`.
-/
import FieldRules.Text.Blank
import FieldRules.Text.Outline
import FieldRules.Text.Quoted

namespace FieldRules

/-- The names that lead from an object to one of its fields or to a field of a nested object. -/
structure Path where
  /-- The names, outermost first. -/
  segments : List String
  /-- Whether the path stands for the opposite of what it leads to. -/
  negated : Bool
  deriving DecidableEq

/-- Why there is no path, or nothing at its end. -/
inductive PathError where
  /-- The text has no names. -/
  | empty
  /-- A name of the text is blank. -/
  | emptySegment (text : String)
  /-- An object does not know the name. -/
  | missingSegment (path segment typeName : String)
  /-- The field of an inner name holds nothing. -/
  | nullIntermediate (path segment : String)
  /-- The field of an inner name holds something that has no fields. -/
  | notAnObject (path segment : String)
  deriving DecidableEq

namespace PathError

/-- The wording of the error. -/
def message : PathError → String
  | empty => "field path is empty"
  | emptySegment text => "field path '" ++ text ++ "' contains an empty segment"
  | missingSegment path segment typeName =>
    "'" ++ segment ++ "' does not exist on " ++ typeName ++ " (path '" ++ path ++ "')"
  | nullIntermediate path segment => "'" ++ segment ++ "' is null while resolving '" ++ path ++ "'"
  | notAnObject path segment =>
    "'" ++ segment ++ "' is not an object while resolving '" ++ path ++ "'"

end PathError

namespace Path

/-- Whether a trimmed text begins with `!`, and what it says after that. -/
def splitNegation : List Char → Bool × List Char
  | '!' :: r => (true, Text.trimStart r)
  | r => (false, r)

/-- The trimmed pieces of a text between its points. -/
def pieces (body : List Char) : List (List Char) :=
  (body.splitOn '.').map Text.trim

/-- Reads a path. -/
def parse (raw : String) : Except PathError Path :=
  let (negated, body) := splitNegation (Text.trim raw.toList)
  if body.isEmpty then .error .empty
  else if (pieces body).any List.isEmpty then .error (.emptySegment raw)
  else .ok ⟨(pieces body).map String.ofList, negated⟩

/-- The innermost name. -/
def terminal (p : Path) : String :=
  p.segments.getLast?.getD ""

/-- The names joined by points, as characters. -/
def dottedChars (p : Path) : List Char :=
  ['.'].intercalate (p.segments.map String.toList)

/-- The names joined by points. -/
def dotted (p : Path) : String :=
  String.ofList p.dottedChars

/-- The path as it can be read back. -/
def display (p : Path) : String :=
  String.ofList (if p.negated then '!' :: p.dottedChars else p.dottedChars)

/-- A display of the parts of the path. -/
def outline (p : Path) : String :=
  Text.Outline.record "FieldPath"
    [("segments", Text.Outline.list (p.segments.map Text.quoted)),
      ("negated", Text.Outline.flag p.negated)]

end Path

end FieldRules
