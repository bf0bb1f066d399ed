/-
Declared rules: what a type says about its fields, before anything is checked.

* `RuleKind`: the seven kinds of rule with their parameters as written;
* `Clause`: what can be added to a rule;
* `RuleDecl`: a kind with what was added to it; `RuleDecl.add` adds a clause, and
  one that makes no sense for the kind is only noted;
* `RuleDecl.ofClauses`: a kind with clauses added in order.
-/
import FieldRules.Message
import FieldRules.Text.Blank

namespace FieldRules

/-- A kind of rule with its parameters. -/
inductive RuleKind where
  /-- There must be something. -/
  | valuePresent
  /-- A number must lie between two bounds. -/
  | numberInRange (min max : String) (minPath maxPath : Option String)
  /-- A number must lie below a bound. -/
  | numberLessThan (bound : String) (path : Option String)
  /-- A number must lie above a bound. -/
  | numberGreaterThan (bound : String) (path : Option String)
  /-- A text must be long enough. -/
  | lengthGreaterThan (min : Int) (path : Option String)
  /-- A text must be short enough. -/
  | lengthLessThan (max : Int) (path : Option String)
  /-- A handler decides. -/
  | custom (delegate : Option String)
  deriving DecidableEq

namespace RuleKind

/-- The rule that is left to a handler. A blank name stands for no handler. -/
def ofDelegate (name : String) : RuleKind :=
  custom (if Text.isBlank name then none else some name)

/-- The name of the kind in messages and displays. -/
def name : RuleKind → String
  | valuePresent => "ValuePresent"
  | numberInRange .. => "NumberInRange"
  | numberLessThan .. => "NumberLessThan"
  | numberGreaterThan .. => "NumberGreaterThan"
  | lengthGreaterThan .. => "StringLengthGreaterThan"
  | lengthLessThan .. => "StringLengthLessThan"
  | custom _ => "CustomHandler"

/-- The paths to the fields that bounds are taken from, as written. -/
def comparisonPaths : RuleKind → List String
  | numberInRange _ _ minPath maxPath => minPath.toList ++ maxPath.toList
  | numberLessThan _ path | numberGreaterThan _ path | lengthGreaterThan _ path
  | lengthLessThan _ path => path.toList
  | valuePresent | custom _ => []

/-- Whether a handler decides. -/
def isCustom : RuleKind → Bool
  | custom _ => true
  | _ => false

/-- A display of the kind and its parameters. -/
def outline (k : RuleKind) : String :=
  let path (p : Option String) := Text.Outline.option (p.map Text.quoted)
  match k with
  | valuePresent => k.name
  | numberInRange min max minPath maxPath =>
    Text.Outline.record k.name
      [("min", Text.quoted min), ("max", Text.quoted max), ("min_path", path minPath),
        ("max_path", path maxPath)]
  | numberLessThan bound p | numberGreaterThan bound p =>
    Text.Outline.record k.name [("bound", Text.quoted bound), ("path", path p)]
  | lengthGreaterThan min p =>
    Text.Outline.record k.name [("min", toString min), ("path", path p)]
  | lengthLessThan max p =>
    Text.Outline.record k.name [("max", toString max), ("path", path p)]
  | custom delegate => Text.Outline.record k.name [("delegate", path delegate)]

end RuleKind

/-- What can be added to a declared rule. -/
inductive Clause where
  /-- The rule reports this error. -/
  | error (text : String)
  /-- The rule reports this warning. -/
  | warning (text : String)
  /-- The rule reports messages of this kind. -/
  | messageKind (kind : MessageKind)
  /-- The rule reports this text. -/
  | failureMessage (text : String)
  /-- The text has a localized form under this key. -/
  | localized (key : String)
  /-- The rule applies under a condition on the field at this path. -/
  | validateIf (path : String)
  /-- The handler of this name has the last word. -/
  | interceptWith (handler : String)
  /-- The bound is taken from the field at this path. -/
  | comparedTo (path : String)
  /-- The lower bound is taken from the field at this path. -/
  | minComparedTo (path : String)
  /-- The upper bound is taken from the field at this path. -/
  | maxComparedTo (path : String)
  deriving DecidableEq

/-- A rule as declared. -/
structure RuleDecl where
  /-- The kind with its parameters. -/
  kind : RuleKind
  /-- The kind of its messages, once it was given. -/
  messageKind : Option MessageKind
  /-- The text of its messages. -/
  failureText : String
  /-- The key of the localized text. -/
  localizationKey : Option String
  /-- The path of its condition, as written. -/
  guard : Option String
  /-- The name of the handler that has the last word. -/
  interceptor : Option String
  /-- The clauses that made no sense, in the order in which they were added. -/
  misapplied : List String

namespace RuleDecl

/-- A rule of this kind, without clauses. -/
def ofKind (kind : RuleKind) : RuleDecl :=
  ⟨kind, none, "", none, none, none, []⟩

/-- Notes a clause that makes no sense for the rule. -/
def misapply (d : RuleDecl) (clause : String) : RuleDecl :=
  { d with misapplied := d.misapplied ++ [clause] }

/-- Sets the path that a single bound is taken from. -/
def compareTo (d : RuleDecl) (path : String) : RuleDecl :=
  match d.kind with
  | .numberLessThan bound _ => { d with kind := .numberLessThan bound (some path) }
  | .numberGreaterThan bound _ => { d with kind := .numberGreaterThan bound (some path) }
  | .lengthGreaterThan min _ => { d with kind := .lengthGreaterThan min (some path) }
  | .lengthLessThan max _ => { d with kind := .lengthLessThan max (some path) }
  | _ => d.misapply "compared_to"

/-- Sets the path that the lower of two bounds is taken from. -/
def compareMinTo (d : RuleDecl) (path : String) : RuleDecl :=
  match d.kind with
  | .numberInRange min max _ maxPath =>
    { d with kind := .numberInRange min max (some path) maxPath }
  | _ => d.misapply "min_compared_to"

/-- Sets the path that the upper of two bounds is taken from. -/
def compareMaxTo (d : RuleDecl) (path : String) : RuleDecl :=
  match d.kind with
  | .numberInRange min max minPath _ =>
    { d with kind := .numberInRange min max minPath (some path) }
  | _ => d.misapply "max_compared_to"

/-- Adds a clause. Of two clauses about one thing the later counts. -/
def add (d : RuleDecl) : Clause → RuleDecl
  | .error text => { d with messageKind := some .error, failureText := text }
  | .warning text => { d with messageKind := some .warning, failureText := text }
  | .messageKind kind => { d with messageKind := some kind }
  | .failureMessage text => { d with failureText := text }
  | .localized key => { d with localizationKey := some key }
  | .validateIf path => { d with guard := some path }
  | .interceptWith handler => { d with interceptor := some handler }
  | .comparedTo path => d.compareTo path
  | .minComparedTo path => d.compareMinTo path
  | .maxComparedTo path => d.compareMaxTo path

/-- A rule of this kind with these clauses, added in order. -/
def ofClauses (kind : RuleKind) (clauses : List Clause) : RuleDecl :=
  clauses.foldl add (ofKind kind)

/-- A display of the declaration. -/
def outline (d : RuleDecl) : String :=
  Text.Outline.record "Rule"
    [("kind", d.kind.outline),
      ("message_kind", Text.Outline.option (d.messageKind.map MessageKind.label)),
      ("failure_message", Text.quoted d.failureText),
      ("localization_key", Text.Outline.option (d.localizationKey.map Text.quoted)),
      ("guard", Text.Outline.option (d.guard.map Text.quoted)),
      ("interceptor", Text.Outline.option (d.interceptor.map Text.quoted)),
      ("misapplied", Text.Outline.list (d.misapplied.map Text.quoted))]

end RuleDecl

end FieldRules
