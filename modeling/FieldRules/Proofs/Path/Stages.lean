/-
Following a path in stages.

* `Entity.Leads`: the names that lead from an object to one that is nested in it;
* `walk_of_leads`: these names may be followed first;
* `walk_eq_ok_iff`: a walk arrives at a slot if all names but the last lead to
  its object, which has a field of the last name;
* `Entity.Stops`, `walk_eq_error_iff`: otherwise it stops in front of a name, at
  an object that does not know it, or behind one where nothing or no object
  stands;
* `PathError.along`: the error as it is told of a longer path;
* `resolve_in_stages`: a path of two parts leads where the second part leads
  from the object at the end of the first.
-/
import FieldRules.Proofs.Outcomes
import FieldRules.Proofs.Path

namespace FieldRules

/-- The error as it is told of the path `dotted`, of which the path that failed is a part. -/
def PathError.along (dotted : String) : PathError → PathError
  | missingSegment _ segment typeName => .missingSegment dotted segment typeName
  | nullIntermediate _ segment => .nullIntermediate dotted segment
  | notAnObject _ segment => .notAnObject dotted segment
  | empty => .empty
  | emptySegment text => .emptySegment text

namespace Entity

variable {dotted : String} {e o : Entity} {front names : List String} {cause : PathError}

/-! ### Through nested objects -/

/-- The names lead from the first object through nested ones to the second. -/
inductive Leads : Entity → List String → Entity → Prop
  | nil (e : Entity) : Leads e [] e
  | cons {e inner o : Entity} {name : String} {rest : List String}
      (hname : e.field? name = some (.object inner)) (h : Leads inner rest o) :
      Leads e (name :: rest) o

/-- Names that lead to an object may be followed first. -/
lemma walk_of_leads (h : e.Leads front o) (hnames : names ≠ []) :
    walk dotted (front ++ names) e = walk dotted names o := by
  induction h with
  | nil => rfl
  | @cons e inner o name rest hname _ ih =>
      rw [List.cons_append, walk, hname]
      · exact ih
      · simp [hnames]

/-- A walk arrives at a slot if and only if all names but the last lead to its object, which has a
field of the last name. -/
lemma walk_eq_ok_iff {s : Slot} :
    walk dotted names e = .ok s ↔
      ∃ front v, names = front ++ [s.name] ∧ e.Leads front s.owner ∧
        s.owner.field? s.name = some v := by
  constructor
  · intro h
    induction names generalizing e with
    | nil => cases h
    | cons name rest ih =>
        cases rest with
        | nil =>
            rw [walk] at h
            split at h
            · rename_i v hv
              cases h
              exact ⟨[], v, rfl, .nil e, hv⟩
            · cases h
        | cons next rest =>
            rw [walk] at h
            · split at h
              · rename_i inner hname
                obtain ⟨front, v, hsplit, hleads, hv⟩ := ih h
                exact ⟨name :: front, v, by rw [hsplit]; rfl, .cons hname hleads, hv⟩
              all_goals cases h
            · simp
  · rintro ⟨front, v, rfl, hleads, hv⟩
    rw [walk_of_leads hleads (by simp), walk, hv]

/-! ### Where a walk stops -/

/-- The places along the names at which a walk stops, with the error that tells of them. -/
inductive Stops (dotted : String) (e : Entity) : List String → PathError → Prop
  /-- An object does not know the name. -/
  | missing {front rest : List String} {name : String} {o : Entity} (hleads : e.Leads front o)
      (hname : o.field? name = none) :
      Stops dotted e (front ++ name :: rest) (.missingSegment dotted name o.typeName)
  /-- There is nothing at a name that is not the last one. -/
  | null {front rest : List String} {name next : String} {o : Entity} (hleads : e.Leads front o)
      (hname : o.field? name = some .null) :
      Stops dotted e (front ++ name :: next :: rest) (.nullIntermediate dotted name)
  /-- There is something else than an object at a name that is not the last one. -/
  | scalar {front rest : List String} {name next : String} {o : Entity} {v : Value}
      (hleads : e.Leads front o) (hname : o.field? name = some v) (hnull : v ≠ .null)
      (hobject : ∀ inner, v ≠ .object inner) :
      Stops dotted e (front ++ name :: next :: rest) (.notAnObject dotted name)

lemma Stops.cons {inner : Entity} {name : String} (hname : e.field? name = some (.object inner))
    (h : inner.Stops dotted names cause) : e.Stops dotted (name :: names) cause := by
  cases h with
  | missing hleads hmissing => exact .missing (.cons hname hleads) hmissing
  | null hleads hnull => exact .null (.cons hname hleads) hnull
  | scalar hleads hv hnull hobject => exact .scalar (.cons hname hleads) hv hnull hobject

/-- A walk along names that stops before the last of them stops there whatever names follow. -/
lemma Stops.append {dotted' : String} (h : e.Stops dotted' names cause) (more : List String) :
    e.Stops dotted (names ++ more) (cause.along dotted) := by
  cases h with
  | missing hleads hname =>
      rw [List.append_assoc]
      exact .missing hleads hname
  | null hleads hname =>
      rw [List.append_assoc]
      exact .null hleads hname
  | scalar hleads hname hnull hobject =>
      rw [List.append_assoc]
      exact .scalar hleads hname hnull hobject

/-- A walk along some names has an error if and only if it stops somewhere. -/
lemma walk_eq_error_iff (hnames : names ≠ []) :
    walk dotted names e = .error cause ↔ e.Stops dotted names cause := by
  constructor
  · intro h
    induction names generalizing e with
    | nil => exact absurd rfl hnames
    | cons name rest ih =>
        cases rest with
        | nil =>
            rw [walk] at h
            split at h <;> cases h
            exact .missing (.nil e) ‹_›
        | cons next rest =>
            rw [walk] at h
            · split at h
              · rename_i inner hname
                exact (ih (by simp) h).cons hname
              · cases h
                exact .null (.nil e) ‹_›
              · rename_i v hobject hnull hname
                cases h
                exact .scalar (.nil e) hname hnull hobject
              · cases h
                exact .missing (.nil e) ‹_›
            · simp
  · intro h
    cases h with
    | @missing front rest name o hleads hname =>
        rw [walk_of_leads hleads (by simp)]
        cases rest <;> simp [walk, hname]
    | null hleads hname =>
        rw [walk_of_leads hleads (by simp)]
        simp [walk, hname]
    | @scalar front rest name next o v hleads hname hnull hobject =>
        rw [walk_of_leads hleads (by simp)]
        cases v with
        | null => exact absurd rfl hnull
        | object inner => exact absurd rfl (hobject inner)
        | bool _ | number _ | text _ | list _ => simp [walk, hname]

/-! ### Values at the end of a path -/

variable {root : Entity} {p : Path}

/-- A value is found at the end of a path if and only if all names but the last lead to an object
that has this value in the field of the last name. -/
lemma resolve_eq_ok_iff {v : Value} :
    root.resolve p = .ok v ↔
      ∃ front name o, p.segments = front ++ [name] ∧ root.Leads front o ∧
        o.field? name = some v := by
  rw [resolve, map_eq_ok_iff]
  constructor
  · rintro ⟨s, hlocate, rfl⟩
    obtain ⟨front, v, hsplit, hleads, hv⟩ := walk_eq_ok_iff.mp hlocate
    refine ⟨front, s.name, s.owner, hsplit, hleads, ?_⟩
    simp [Slot.value, hv]
  · rintro ⟨front, name, o, hsplit, hleads, hv⟩
    refine ⟨⟨o, name⟩, walk_eq_ok_iff.mpr ⟨front, v, hsplit, hleads, hv⟩, ?_⟩
    simp [Slot.value, hv]

lemma resolve_eq_error_iff_stops (hp : p.segments ≠ []) :
    root.resolve p = .error cause ↔ root.Stops p.dotted p.segments cause := by
  rw [resolve_eq_error_iff]
  exact walk_eq_error_iff hp

/-- The slot at the end of a path has a value, which is found there. -/
lemma field?_of_locate {s : Slot} (h : root.locate p = .ok s) :
    ∃ v, s.owner.field? s.name = some v ∧ root.resolve p = .ok v := by
  obtain ⟨front, v, hsplit, hleads, hv⟩ := walk_eq_ok_iff.mp h
  exact ⟨v, hv, resolve_eq_ok_iff.mpr ⟨front, s.name, s.owner, hsplit, hleads, hv⟩⟩

/-! ### A path in two parts -/

/-- The names of an object's field come behind those that lead to the object. -/
lemma Leads.concat {inner : Entity} {name : String} (h : e.Leads front o)
    (hname : o.field? name = some (.object inner)) : e.Leads (front ++ [name]) inner := by
  induction h with
  | nil => exact .cons hname (.nil inner)
  | cons hfirst _ ih => exact .cons hfirst (ih hname)

/-- The same names lead to the same slot, or stop at the same place, whatever path is told. -/
lemma walk_along (dotted dotted' : String) (names : List String) (e : Entity) :
    walk dotted names e = (walk dotted' names e).mapError (PathError.along dotted) := by
  by_cases hnames : names = []
  · subst hnames
    rfl
  · cases h : walk dotted' names e with
    | ok s => exact walk_eq_ok_iff.mpr (walk_eq_ok_iff.mp h)
    | error cause =>
        have hstops : e.Stops dotted (names ++ []) (cause.along dotted) :=
          ((walk_eq_error_iff hnames).mp h).append []
        rw [List.append_nil] at hstops
        exact (walk_eq_error_iff hnames).mpr hstops

lemma locate_congr {p' : Path} (h : p'.segments = p.segments) : root.locate p' = root.locate p := by
  rw [locate, locate, Path.dotted, Path.dotted, Path.dottedChars, Path.dottedChars, h]

variable {xs ys : List String} {negated : Bool}

/-- The second part of a path is followed from the object that the first part leads to. -/
lemma resolve_of_leads (hsplit : p.segments = xs ++ ys) (hys : ys ≠ []) (h : root.Leads xs o) :
    root.resolve p = (o.resolve ⟨ys, negated⟩).mapError (PathError.along p.dotted) := by
  have hwalk : root.locate p
      = (o.locate ⟨ys, negated⟩).mapError (PathError.along p.dotted) := by
    rw [locate, hsplit, walk_of_leads h hys]
    exact walk_along _ _ ys o
  rw [resolve, resolve, hwalk]
  cases o.locate ⟨ys, negated⟩ <;> rfl

/-- A path whose first part has an error has the same one. -/
lemma resolve_of_error (hsplit : p.segments = xs ++ ys) (hxs : xs ≠ [])
    (h : root.resolve ⟨xs, negated⟩ = .error cause) :
    root.resolve p = .error (cause.along p.dotted) := by
  have hstops := (resolve_eq_error_iff_stops hxs).mp h
  rw [resolve_eq_error_iff_stops (by simp [hsplit, hxs]), hsplit]
  exact hstops.append ys

/-- **Paths are followed in stages**: if the first part of a path has an error, the whole path has
the same one; if it leads to an object, the second part is followed from there; and if it leads to
anything else, the path stops behind it, as nothing or no object stands there. All errors tell the
whole path. A path has an error exactly if it stops somewhere, and a name that is missing is told
with the type of the object that does not know it. There is a slot at the end of a path exactly if
there is a value, the object of the slot has this value in the field of its name, and whether the
path is negated does not matter. -/
theorem resolve_in_stages (root : Entity) (p : Path) :
    (∀ (xs ys : List String) (hxs : xs ≠ []) (negated negated' : Bool),
        ys ≠ [] → p.segments = xs ++ ys →
          root.resolve p =
            match root.resolve ⟨xs, negated⟩ with
            | .error cause => .error (cause.along p.dotted)
            | .ok (.object o) => (o.resolve ⟨ys, negated'⟩).mapError (PathError.along p.dotted)
            | .ok .null => .error (.nullIntermediate p.dotted (xs.getLast hxs))
            | .ok _ => .error (.notAnObject p.dotted (xs.getLast hxs))) ∧
      (p.segments ≠ [] → ∀ cause, root.resolve p = .error cause ↔
        root.Stops p.dotted p.segments cause) ∧
      ((∃ s, root.locate p = .ok s) ↔ ∃ v, root.resolve p = .ok v) ∧
      (∀ s, root.locate p = .ok s →
        ∃ v, s.owner.field? s.name = some v ∧ root.resolve p = .ok v) ∧
      ∀ p' : Path, p'.segments = p.segments →
        root.locate p' = root.locate p ∧ root.resolve p' = root.resolve p := by
  refine ⟨?_, ?_, ⟨?_, ?_⟩, ?_, ?_⟩
  · intro xs ys hxs negated negated' hys hsplit
    cases hfirst : root.resolve ⟨xs, negated⟩ with
    | error cause => exact resolve_of_error hsplit hxs hfirst
    | ok v =>
        obtain ⟨front, name, o, hfront, hleads, hv⟩ := resolve_eq_ok_iff.mp hfirst
        obtain rfl : xs = front ++ [name] := hfront
        -- A second part follows, so that the walk goes on behind the last name of the first one.
        obtain ⟨next, rest, rfl⟩ := List.exists_cons_of_ne_nil hys
        have hne : p.segments ≠ [] := by simp [hsplit]
        have hnames : p.segments = front ++ name :: next :: rest := by simp [hsplit]
        have hlast : (front ++ [name]).getLast hxs = name := by simp
        cases v with
        | object inner => exact resolve_of_leads hsplit hys (hleads.concat hv)
        | null =>
            rw [hlast, resolve_eq_error_iff_stops hne, hnames]
            exact .null hleads hv
        | bool _ | number _ | text _ | list _ =>
            rw [hlast, resolve_eq_error_iff_stops hne, hnames]
            exact .scalar hleads hv (by simp) (by simp)
  · intro hp cause
    exact resolve_eq_error_iff_stops hp
  · rintro ⟨s, hs⟩
    obtain ⟨v, -, hv⟩ := field?_of_locate hs
    exact ⟨v, hv⟩
  · rintro ⟨v, hv⟩
    obtain ⟨s, hs, -⟩ := map_eq_ok_iff.mp hv
    exact ⟨s, hs⟩
  · intro s hs
    exact field?_of_locate hs
  · intro p' hp'
    have hlocate : root.locate p' = root.locate p := locate_congr hp'
    exact ⟨hlocate, by rw [resolve, resolve, hlocate]⟩

/-- An order whose customer has no address. -/
def unaddressed : Entity := ⟨"Order", [("Customer", .object ⟨"Customer", [("Address", .null)]⟩)]⟩

/-- The path to the street stops behind the address, and the one to a code stops in front of the zip
that no customer has. -/
theorem unaddressed_in_stages :
    ["Customer", "Address"] ≠ [] ∧ ["Street"] ≠ [] ∧
      unaddressed.resolve ⟨["Customer", "Address"], false⟩ = .ok .null ∧
      unaddressed.resolve ⟨["Customer", "Address", "Street"], false⟩
        = .error (.nullIntermediate "Customer.Address.Street" "Address") ∧
      ["Customer"] ≠ [] ∧ ["Zip", "Code"] ≠ [] ∧
      unaddressed.resolve ⟨["Customer"], false⟩
        = .ok (.object ⟨"Customer", [("Address", .null)]⟩) ∧
      unaddressed.resolve ⟨["Customer", "Zip", "Code"], true⟩
        = .error (.missingSegment "Customer.Zip.Code" "Zip" "Customer") := by
  obtain ⟨hstreet, -⟩ := resolve_in_stages unaddressed ⟨["Customer", "Address", "Street"], false⟩
  obtain ⟨hcode, -⟩ := resolve_in_stages unaddressed ⟨["Customer", "Zip", "Code"], true⟩
  refine ⟨by simp, by simp, rfl, ?_, by simp, by simp, rfl, ?_⟩
  · exact hstreet ["Customer", "Address"] ["Street"] (by simp) false false (by simp) rfl
  · exact hcode ["Customer"] ["Zip", "Code"] (by simp) false false (by simp) rfl

end Entity

end FieldRules
