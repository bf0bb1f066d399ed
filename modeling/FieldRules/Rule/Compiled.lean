/-
The rule that a declaration stands for.

* `RuleDecl.checkedKind`: the kind of the messages, if the declaration makes
  sense in itself;
* `RuleDecl.compileGuard`, `compileInterceptor`, `compileCheck`: its parts, with
  every path read and every handler found;
* `RuleDecl.compile`: all of it; of several defects the first in this order is
  told.
-/
import FieldRules.Rule.Basic
import FieldRules.Rule.Declared

namespace FieldRules

namespace RuleDecl

/-- A name or path that was given and is not blank. -/
def given (raw : Option String) : Option String :=
  raw.filter (!Text.isBlank ·)

/-- The path that was given, if any. -/
def path? (raw : Option String) : Except Error (Option Path) :=
  match given raw with
  | none => .ok none
  | some s => orPathError ((Path.parse s).map some)

/-- The handler of this name, which the type must have. -/
def handler (typeName : String) (hs : Handlers) (name : String) : Except Error NamedHandler :=
  match hs.find? name with
  | some h => .ok ⟨name, h⟩
  | none => .error (.missingHandler name typeName)

/-- Whether a path begins with `!`, after blank characters or not. -/
def isNegated (path : String) : Bool :=
  (Text.trimStart path.toList).head? == some '!'

/-- What makes no sense about the declaration in itself: a clause that is not for its kind, or a
comparison with a negated path. -/
def defect? (d : RuleDecl) : Option String :=
  match d.misapplied.head? with
  | some clause => some ("'" ++ clause ++ "' does not apply to this rule")
  | none =>
    (d.kind.comparisonPaths.find? isNegated).map fun path =>
      "comparison path '" ++ path ++ "' cannot be negated"

/-- The kind of the messages, if the declaration makes sense in itself and gives one. -/
def checkedKind (d : RuleDecl) (typeName field : String) : Except Error MessageKind :=
  let misconfigured (reason : String) : Error :=
    .configuration typeName field d.kind.name reason
  match d.defect? with
  | some reason => .error (misconfigured reason)
  | none =>
    match d.messageKind with
    | some kind => .ok kind
    | none => .error (misconfigured "no message kind was declared")

/-- The condition, if one was given. -/
def compileGuard (d : RuleDecl) : Except Error (Option Guard) :=
  (path? d.guard).map (Option.map Guard.mk)

/-- The handler that has the last word, if one was given. A rule that is left to a handler anyway
takes no other. -/
def compileInterceptor (d : RuleDecl) (typeName : String) (hs : Handlers) :
    Except Error (Option NamedHandler) :=
  match given d.interceptor with
  | none => .ok none
  | some name =>
    if d.kind.isCustom then .ok none else (handler typeName hs name).map some

/-- The check of a kind of rule. -/
def compileCheck (typeName : String) (hs : Handlers) : RuleKind → Except Error Check
  | .valuePresent => .ok .present
  | .numberInRange min max minPath maxPath => do
    let low ← path? minPath
    let high ← path? maxPath
    return .numeric (.fresh (.inRange ⟨min, low⟩ ⟨max, high⟩))
  | .numberLessThan bound path => do
    return .numeric (.fresh (.lessThan ⟨bound, ← path? path⟩))
  | .numberGreaterThan bound path => do
    return .numeric (.fresh (.greaterThan ⟨bound, ← path? path⟩))
  | .lengthGreaterThan min path => do
    return .longer ⟨min, ← path? path⟩
  | .lengthLessThan max path => do
    return .shorter ⟨max, ← path? path⟩
  | .custom none => .ok (.custom none)
  | .custom (some name) => (handler typeName hs name).map fun h => .custom (some h)

/-- The rule for a field of a type with these handlers. -/
def compile (d : RuleDecl) (typeName field : String) (hs : Handlers) : Except Error Rule := do
  let kind ← d.checkedKind typeName field
  let guard ← d.compileGuard
  let interceptor ← d.compileInterceptor typeName hs
  let check ← compileCheck typeName hs d.kind
  return ⟨check, kind, d.failureText, d.localizationKey, guard, interceptor⟩

end RuleDecl

end FieldRules