/-
What compiling makes of declared rules.

* `RuleKind.slots`: for each bound the path that it is taken from, as written;
* `unreadable?`, `unknown?`: the error of a text that is no path, and that of a
  name without a handler;
* `RuleStart.defects`: what may make no sense about a rule, in the order in which
  it counts;
* `errorOf_compile_declare`: the first of these defects is the error of the rule;
* `ReadsAs`, `compileCheck_eq_ok`, `readsAs_of_compileGuard`: the paths of a
  compiled rule are those that were given;
* `negated_of_compile`: no bound is taken from a negated path;
* `RuleTable.rules`, `RuleTable.errorOf_compile`: the error of a table is that of
  its first rule that has one;
* `compile_tells_first_defect`: all of this together.
-/
import FieldRules.RuleTable
import FieldRules.Proofs.Rule.Clauses
import FieldRules.Proofs.Rule.Errors

namespace FieldRules

/-! ### Bounds and their paths -/

/-- For each bound of the rule, the lower one first, the path that it is taken from, as written. -/
def RuleKind.slots : RuleKind → List (Option String)
  | numberInRange _ _ minPath maxPath => [minPath, maxPath]
  | numberLessThan _ path | numberGreaterThan _ path | lengthGreaterThan _ path
  | lengthLessThan _ path => [path]
  | valuePresent | custom _ => []

lemma RuleKind.comparisonPaths_eq (k : RuleKind) : k.comparisonPaths = k.slots.reduceOption := by
  cases k with
  | numberInRange min max minPath maxPath => cases minPath <;> cases maxPath <;> rfl
  | numberLessThan bound path => cases path <;> rfl
  | numberGreaterThan bound path => cases path <;> rfl
  | lengthGreaterThan min path => cases path <;> rfl
  | lengthLessThan max path => cases path <;> rfl
  | valuePresent => rfl
  | custom delegate => rfl

namespace RuleDecl

/-- The error of a text that was given as a path and is none. Blank text does not count as given. -/
def unreadable? (raw : String) : Option Error :=
  if Text.isBlank raw then none else (errorOf (Path.parse raw)).map .path

/-- The error of a name that was given for a handler that the type does not have. Blank text does
not count as given. -/
def unknown? (typeName : String) (hs : Handlers) (name : String) : Option Error :=
  if Text.isBlank name || (hs.find? name).isSome then none
  else some (.missingHandler name typeName)

variable {typeName field : String} {hs : Handlers}

lemma given_some (s : String) : given (some s) = if Text.isBlank s then none else some s := by
  cases h : Text.isBlank s <;> simp [given, Option.filter, h]

lemma errorOf_path? (raw : Option String) : errorOf (path? raw) = raw.bind unreadable? := by
  cases raw with
  | none => rfl
  | some s =>
      rw [path?, given_some, Option.bind_some, unreadable?]
      cases Text.isBlank s with
      | true => rfl
      | false =>
          simp only [Bool.false_eq_true, if_false, orPathError]
          cases Path.parse s <;> rfl

lemma errorOf_handler (name : String) :
    errorOf (handler typeName hs name)
      = if (hs.find? name).isSome then none else some (.missingHandler name typeName) := by
  rw [handler]
  cases hs.find? name <;> rfl

lemma errorOf_compileGuard (d : RuleDecl) : errorOf d.compileGuard = d.guard.bind unreadable? := by
  rw [compileGuard, errorOf_map, errorOf_path?]

lemma errorOf_compileInterceptor (d : RuleDecl) :
    errorOf (d.compileInterceptor typeName hs)
      = if d.kind.isCustom then none else d.interceptor.bind (unknown? typeName hs) := by
  rw [compileInterceptor]
  cases d.interceptor with
  | none => cases d.kind.isCustom <;> rfl
  | some name =>
      rw [given_some, Option.bind_some, unknown?]
      cases Text.isBlank name with
      | true => cases d.kind.isCustom <;> rfl
      | false =>
          cases d.kind.isCustom with
          | true => rfl
          | false =>
              simp only [Bool.false_eq_true, if_false, errorOf_map, errorOf_handler, Bool.false_or]

lemma errorOf_checkedKind (d : RuleDecl) :
    errorOf (d.checkedKind typeName field)
      = (d.defect?.map (.configuration typeName field d.kind.name)).or
          (if d.messageKind.isSome then none
            else some <| .configuration typeName field d.kind.name
              "no message kind was declared") := by
  rw [checkedKind]
  cases d.defect? with
  | some reason => rfl
  | none => cases d.messageKind <;> rfl

/-- The first stage without an answer decides the error. -/
lemma errorOf_compile (d : RuleDecl) :
    errorOf (d.compile typeName field hs)
      = (errorOf (d.checkedKind typeName field)).or
          ((errorOf d.compileGuard).or
            ((errorOf (d.compileInterceptor typeName hs)).or
              (errorOf (compileCheck typeName hs d.kind)))) := by
  rw [compile]
  exact errorOf_bind fun kind => errorOf_bind fun guard => errorOf_bind fun interceptor =>
    errorOf_bind_pure _ _

lemma isNegated_eq (path : String) : isNegated path = Path.startsNegated path := by
  rw [isNegated, Path.startsNegated, Text.head?_trimStart]

end RuleDecl

/-! ### What may make no sense -/

namespace RuleStart

/-- The name of the handler that decides. -/
def handler? : RuleStart → Option String
  | custom handler => some handler
  | _ => none

/-- The paths that bounds are taken from, the one of the lower bound first. -/
def paths (s : RuleStart) (clauses : List Clause) : List String :=
  (s.slots clauses).reduceOption

open RuleDecl in
/-- What may make no sense about a rule, in the order in which it counts: a clause that is not for
the rule, a bound taken from a negated path, no kind of messages, a condition on no path, an unknown
interceptor, a bound taken from no path, an unknown handler. -/
def defects (s : RuleStart) (clauses : List Clause) (typeName field : String) (hs : Handlers) :
    List (Option Error) :=
  let misconfigured (reason : String) : Error :=
    .configuration typeName field s.kind.name reason
  [(clauses.findSome? s.misfit?).map fun clause =>
      misconfigured ("'" ++ clause ++ "' does not apply to this rule"),
    ((s.paths clauses).find? Path.startsNegated).map fun path =>
      misconfigured ("comparison path '" ++ path ++ "' cannot be negated"),
    if (lastOf Clause.kind? clauses).isSome then none
      else some (misconfigured "no message kind was declared"),
    (lastOf Clause.condition? clauses).bind unreadable?,
    if s.kind.isCustom then none
      else (lastOf Clause.interceptor? clauses).bind (unknown? typeName hs),
    (s.paths clauses).findSome? unreadable?,
    s.handler?.bind (unknown? typeName hs)]

variable {typeName field : String} {hs : Handlers}

lemma name_kindAfter (s : RuleStart) (clauses : List Clause) :
    (s.kindAfter clauses).name = s.kind.name := by
  cases s <;> rfl

lemma isCustom_kindAfter (s : RuleStart) (clauses : List Clause) :
    (s.kindAfter clauses).isCustom = s.kind.isCustom := by
  cases s <;> rfl

lemma slots_kindAfter (s : RuleStart) (clauses : List Clause) :
    (s.kindAfter clauses).slots = s.slots clauses := by
  cases s <;> rfl

lemma defect?_declare (s : RuleStart) (clauses : List Clause) :
    (s.declare clauses).defect?
      = ((clauses.findSome? s.misfit?).map fun clause =>
            "'" ++ clause ++ "' does not apply to this rule").or
          (((s.paths clauses).find? Path.startsNegated).map fun path =>
            "comparison path '" ++ path ++ "' cannot be negated") := by
  rw [declare_eq, RuleDecl.defect?, List.head?_filterMap, RuleKind.comparisonPaths_eq,
    slots_kindAfter, funext RuleDecl.isNegated_eq]
  cases clauses.findSome? s.misfit? <;> rfl

lemma findSome?_paths (s : RuleStart) (clauses : List Clause) (f : String → Option Error) :
    (s.paths clauses).findSome? f = (s.slots clauses).findSome? fun raw => raw.bind f := by
  rw [paths]
  induction s.slots clauses with
  | nil => rfl
  | cons raw rest ih =>
      rw [findSome?_cons_eq_or, ← ih]
      cases raw with
      | none => rfl
      | some s => exact findSome?_cons_eq_or f s _

open RuleDecl in
lemma errorOf_compileCheck (s : RuleStart) (clauses : List Clause) :
    errorOf (compileCheck typeName hs (s.kindAfter clauses))
      = ((s.paths clauses).findSome? unreadable?).or (s.handler?.bind (unknown? typeName hs)) := by
  have hone : ∀ (raw : Option String) (f : Option Path → Check),
      errorOf (path? raw >>= fun p => pure (f p))
        = ([raw].findSome? fun raw => raw.bind unreadable?).or none := by
    intro raw f
    rw [errorOf_bind_pure, errorOf_path?, findSome?_cons_eq_or, List.findSome?_nil, Option.or_none,
      Option.or_none]
  rw [findSome?_paths]
  cases s with
  | valuePresent => rfl
  | numberInRange min max =>
      simp only [kindAfter, kindWith, compileCheck, slots, handler?, findSome?_cons_eq_or,
        List.findSome?_nil, Option.or_none, Option.bind_none, ← errorOf_path?]
      exact errorOf_bind fun low => errorOf_bind_pure _ _
  | numberLessThan n => exact hone _ _
  | numberGreaterThan n => exact hone _ _
  | lengthGreaterThan min => exact hone _ _
  | lengthLessThan max => exact hone _ _
  | custom name =>
      rw [kindAfter, kindWith, RuleKind.ofDelegate, handler?, Option.bind_some, unknown?]
      cases Text.isBlank name with
      | true => rfl
      | false =>
          simp only [Bool.false_eq_true, if_false, compileCheck, errorOf_map, errorOf_handler,
            Bool.false_or]
          rfl

/-- The first of the defects is the error of the rule. -/
lemma errorOf_compile_declare (s : RuleStart) (clauses : List Clause) :
    errorOf ((s.declare clauses).compile typeName field hs)
      = (s.defects clauses typeName field hs).findSome? id := by
  rw [RuleDecl.errorOf_compile, RuleDecl.errorOf_checkedKind, defect?_declare,
    RuleDecl.errorOf_compileGuard, RuleDecl.errorOf_compileInterceptor, declare_eq]
  simp only [name_kindAfter, isCustom_kindAfter, errorOf_compileCheck, defects,
    findSome?_cons_eq_or, List.findSome?_nil, Option.or_none, id_eq, Option.or_assoc,
    Option.map_or, Option.map_map, Function.comp_def]

end RuleStart

/-! ### What is compiled -/

/-- A text that was given is read as a path. Without a text, or from a blank one, there is none. -/
inductive ReadsAs : Option String → Option Path → Prop
  | absent : ReadsAs none none
  | blank {raw : String} (h : Text.isBlank raw = true) : ReadsAs (some raw) none
  | path {raw : String} {p : Path} (h : Text.isBlank raw = false) (hp : Path.parse raw = .ok p) :
      ReadsAs (some raw) (some p)

namespace RuleDecl

variable {typeName field : String} {hs : Handlers} {d : RuleDecl} {r : Rule}

lemma readsAs_of_path? {raw : Option String} {p : Option Path} (h : path? raw = .ok p) :
    ReadsAs raw p := by
  cases raw with
  | none =>
      obtain rfl : none = p := Except.ok.inj h
      exact .absent
  | some s =>
      rw [path?, given_some] at h
      cases hs : Text.isBlank s with
      | true =>
          rw [hs] at h
          obtain rfl : none = p := Except.ok.inj h
          exact .blank hs
      | false =>
          rw [hs] at h
          cases hp : Path.parse s with
          | error cause =>
              simp [hp, orPathError, Except.map, Except.mapError] at h
          | ok q =>
              simp only [Bool.false_eq_true, if_false, hp, orPathError, Except.map,
                Except.mapError] at h
              obtain rfl : some q = p := Except.ok.inj h
              exact .path hs hp

/-- All parts of a rule have an answer, and these are the parts of the rule. -/
lemma compile_eq_ok (h : d.compile typeName field hs = .ok r) :
    d.checkedKind typeName field = .ok r.kind ∧ d.compileGuard = .ok r.guard ∧
      d.compileInterceptor typeName hs = .ok r.interceptor ∧
      compileCheck typeName hs d.kind = .ok r.check := by
  rw [compile] at h
  obtain ⟨kind, hkind, h⟩ := bind_eq_ok_iff.mp h
  obtain ⟨guard, hguard, h⟩ := bind_eq_ok_iff.mp h
  obtain ⟨interceptor, hinterceptor, h⟩ := bind_eq_ok_iff.mp h
  obtain ⟨check, hcheck, h⟩ := bind_eq_ok_iff.mp h
  cases h
  exact ⟨hkind, hguard, hinterceptor, hcheck⟩

/-- The paths of bounds are read one by one, and no check is bound to a width yet. -/
lemma compileCheck_eq_ok {kind : RuleKind} {c : Check}
    (h : compileCheck typeName hs kind = .ok c) :
    List.Forall₂ ReadsAs kind.slots c.slots ∧ c.width? = none := by
  cases kind with
  | valuePresent =>
      cases h
      exact ⟨.nil, rfl⟩
  | numberInRange min max minPath maxPath =>
      obtain ⟨low, hlow, h⟩ := bind_eq_ok_iff.mp h
      obtain ⟨high, hhigh, h⟩ := bind_eq_ok_iff.mp h
      cases h
      exact ⟨.cons (readsAs_of_path? hlow) (.cons (readsAs_of_path? hhigh) .nil), rfl⟩
  | numberLessThan _ _ | numberGreaterThan _ _ | lengthGreaterThan _ _ | lengthLessThan _ _ =>
      obtain ⟨p, hp, h⟩ := bind_eq_ok_iff.mp h
      cases h
      exact ⟨.cons (readsAs_of_path? hp) .nil, rfl⟩
  | custom delegate =>
      cases delegate with
      | none =>
          cases h
          exact ⟨.nil, rfl⟩
      | some name =>
          obtain ⟨_, _, h⟩ := map_eq_ok_iff.mp h
          cases h
          exact ⟨.nil, rfl⟩

/-- The condition of a rule is read as the path that is given for it. -/
lemma readsAs_of_compileGuard {g : Option Guard} (h : d.compileGuard = .ok g) :
    ReadsAs d.guard (g.map Guard.path) := by
  obtain ⟨p, hp, rfl⟩ := map_eq_ok_iff.mp h
  have hpath : (p.map Guard.mk).map Guard.path = p := by cases p <;> rfl
  rw [hpath]
  exact readsAs_of_path? hp

/-- The interceptor goes by the name that was given, unless a handler decides anyway. -/
lemma name_of_compileInterceptor {i : Option NamedHandler}
    (h : d.compileInterceptor typeName hs = .ok i) :
    i.map NamedHandler.name = if d.kind.isCustom then none else given d.interceptor := by
  rw [compileInterceptor] at h
  cases hgiven : given d.interceptor with
  | none =>
      rw [hgiven] at h
      cases h
      rw [Option.map_none, ite_self]
  | some name =>
      rw [hgiven] at h
      cases hcustom : d.kind.isCustom with
      | true =>
          rw [hcustom] at h
          cases h
          rfl
      | false =>
          rw [hcustom] at h
          obtain ⟨found, hfound, rfl⟩ := map_eq_ok_iff.mp h
          rw [handler] at hfound
          split at hfound <;> cases hfound
          rfl

/-- No bound is taken from a negated path. -/
lemma negated_of_compile (h : d.compile typeName field hs = .ok r) {p : Path}
    (hp : some p ∈ r.check.slots) : p.negated = false := by
  obtain ⟨hkind, _, _, hcheck⟩ := compile_eq_ok h
  obtain ⟨raw, hraw, hreads⟩ := exists_left_of_forall₂ (compileCheck_eq_ok hcheck).1 hp
  cases hreads with
  | @path text _ _ hparse =>
      -- a negated path would have been a defect
      have hdefect : d.defect? = none := by
        cases hd : d.defect? with
        | none => rfl
        | some reason =>
            rw [checkedKind, hd] at hkind
            cases hkind
      have hfind : d.kind.comparisonPaths.find? isNegated = none := by
        rw [defect?] at hdefect
        split at hdefect
        · cases hdefect
        · exact Option.map_eq_none_iff.mp hdefect
      rw [List.find?_eq_none, RuleKind.comparisonPaths_eq] at hfind
      have htext := hfind text (List.reduceOption_mem_iff.mpr hraw)
      rw [isNegated_eq, ← Path.negated_of_parse hparse] at htext
      exact Bool.eq_false_iff.mpr htext

/-- A rule that was not used yet is not bound to a width. -/
lemma width?_of_compile (h : d.compile typeName field hs = .ok r) : r.check.width? = none := by
  obtain ⟨_, _, _, hcheck⟩ := compile_eq_ok h
  exact (compileCheck_eq_ok hcheck).2

end RuleDecl

namespace RuleTable

/-- The declared rules with the names of their fields, in the order of the fields. -/
def rules (t : RuleTable) : List (String × RuleDecl) :=
  t.fields.flatMap fun e => e.2.map fun d => (e.1.name, d)

lemma errorOf_compileEntry (typeName : String) (hs : Handlers) (e : Field × List RuleDecl) :
    errorOf (compileEntry typeName hs e)
      = e.2.findSome? fun d => errorOf (d.compile typeName e.1.name hs) := by
  rw [compileEntry, errorOf_map, errorOf_mapM]

/-- The first rule without an answer decides the error of a table. -/
lemma errorOf_compile (t : RuleTable) (typeName : String) :
    errorOf (t.compile typeName)
      = t.rules.findSome? fun p => errorOf (p.2.compile typeName p.1 t.handlers) := by
  rw [compile, errorOf_map, errorOf_mapM, rules]
  induction t.fields with
  | nil => rfl
  | cons e rest ih =>
      rw [findSome?_cons_eq_or, ih, List.flatMap_cons, List.findSome?_append, List.findSome?_map,
        errorOf_compileEntry]
      rfl

/-- The rules of a book that was compiled were declared. -/
lemma compile_of_mem {t : RuleTable} {typeName : String} {b : RuleBook}
    (h : t.compile typeName = .ok b) {e : RuleBook.Entry} (he : e ∈ b.entries) {r : Rule}
    (hr : r ∈ e.rules) :
    ∃ d : RuleDecl, d.compile typeName e.name t.handlers = .ok r := by
  obtain ⟨entries, hentries, rfl⟩ := map_eq_ok_iff.mp h
  obtain ⟨f, _, hf⟩ := exists_left_of_forall₂ (mapM_eq_ok_iff.mp hentries) he
  obtain ⟨rules, hrules, rfl⟩ := map_eq_ok_iff.mp hf
  obtain ⟨d, _, hd⟩ := exists_left_of_forall₂ (mapM_eq_ok_iff.mp hrules) hr
  exact ⟨d, hd⟩

end RuleTable

/-- **Compiling tells the first defect**: whichever way a rule begins and whatever clauses are added
to it, its error is the first of its defects, and without one it is compiled. Then each bound and
the condition have the path that was given, blank text counting as none, and no bound is taken from
a negated path; the interceptor goes by the name that was given, but not if a handler decides
anyway. The error of a table is that of the first of its rules that has one, and without one it is
compiled. -/
theorem compile_tells_first_defect :
    (∀ (s : RuleStart) (clauses : List Clause) (typeName field : String) (hs : Handlers),
      (∀ e, (s.declare clauses).compile typeName field hs = .error e ↔
        (s.defects clauses typeName field hs).findSome? id = some e) ∧
      ((∃ r, (s.declare clauses).compile typeName field hs = .ok r) ↔
        ∀ defect ∈ s.defects clauses typeName field hs, defect = none) ∧
      ∀ r, (s.declare clauses).compile typeName field hs = .ok r →
        List.Forall₂ ReadsAs (s.slots clauses) r.check.slots ∧
          (∀ p, some p ∈ r.check.slots → p.negated = false) ∧
          ReadsAs (lastOf Clause.condition? clauses) (r.guard.map Guard.path) ∧
          r.interceptor.map NamedHandler.name
            = if s.kind.isCustom then none
              else RuleDecl.given (lastOf Clause.interceptor? clauses)) ∧
    ∀ (t : RuleTable) (typeName : String),
      (∀ e, t.compile typeName = .error e ↔
        ∃ front p back, t.rules = front ++ p :: back ∧
          p.2.compile typeName p.1 t.handlers = .error e ∧
          ∀ q ∈ front, ∃ r, q.2.compile typeName q.1 t.handlers = .ok r) ∧
      ((∃ b, t.compile typeName = .ok b) ↔
        ∀ p ∈ t.rules, ∃ r, p.2.compile typeName p.1 t.handlers = .ok r) := by
  refine ⟨fun s clauses typeName field hs => ⟨fun e => ?_, ?_, fun r hr => ?_⟩,
    fun t typeName => ⟨fun e => ?_, ?_⟩⟩
  · rw [← errorOf_eq_some_iff, s.errorOf_compile_declare]
  · rw [← errorOf_eq_none_iff, s.errorOf_compile_declare, List.findSome?_eq_none_iff]
    rfl
  · obtain ⟨_, hguard, hinterceptor, hcheck⟩ := RuleDecl.compile_eq_ok hr
    have hslots := (RuleDecl.compileCheck_eq_ok hcheck).1
    have hcondition := RuleDecl.readsAs_of_compileGuard hguard
    have hname := RuleDecl.name_of_compileInterceptor hinterceptor
    rw [RuleStart.declare_eq] at hslots hcondition hname
    rw [RuleStart.slots_kindAfter] at hslots
    rw [RuleStart.isCustom_kindAfter] at hname
    exact ⟨hslots, fun p hp => RuleDecl.negated_of_compile hr hp, hcondition, hname⟩
  · rw [← errorOf_eq_some_iff, t.errorOf_compile, List.findSome?_eq_some_iff]
    simp only [errorOf_eq_some_iff, errorOf_eq_none_iff]
  · rw [← errorOf_eq_none_iff, t.errorOf_compile, List.findSome?_eq_none_iff]
    simp only [errorOf_eq_none_iff]

/-- A clause that is not for the rule counts before a negated path, whichever was added first. -/
example :
    ((RuleStart.numberInRange "1" "9").declare [.minComparedTo " !Low", .comparedTo "High"]).compile
        "Order" "Price" .empty
      = .error (.configuration "Order" "Price" "NumberInRange"
          "'compared_to' does not apply to this rule") := rfl

end FieldRules
