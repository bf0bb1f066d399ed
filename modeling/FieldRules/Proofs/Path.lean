/-
Reading paths and following them.

* `segments_ne_nil_of_parse`, `negated_of_parse`: a path that was read has a
  name, and it is negated if the first character of its text that is not blank
  is `!`;
* `PathError.OfWalk`: the causes for which a path may lead nowhere;
* `ofWalk_of_locate`: a path that has a name leads nowhere for such a cause.
-/
import FieldRules.Proofs.Text.Trimming
import FieldRules.Resolve

namespace FieldRules

namespace Path

/-- Whether the first character that is not blank is `!`. -/
def startsNegated (raw : String) : Bool :=
  (raw.toList.find? fun c => !Text.isBlankChar c) == some '!'

variable {raw : String} {p : Path}

/-- What is read has the names and the sign of the text. -/
lemma parse_eq_ok (h : parse raw = .ok p) :
    p = ⟨(pieces (splitNegation (Text.trim raw.toList)).2).map String.ofList,
      (splitNegation (Text.trim raw.toList)).1⟩ := by
  simp only [parse] at h
  split at h
  · cases h
  · split at h
    · cases h
    · exact (Except.ok.inj h).symm

/-- A text that does not begin with `!` is not negated. -/
lemma splitNegation_of_head?_ne {cs : List Char} (h : cs.head? ≠ some '!') :
    splitNegation cs = (false, cs) := by
  rw [splitNegation.eq_def]
  split
  · exact absurd rfl h
  · rfl

/-- Whether the text of a path is negated. -/
lemma fst_splitNegation_trim (raw : String) :
    (splitNegation (Text.trim raw.toList)).1 = startsNegated raw := by
  rw [startsNegated, ← Text.head?_trim]
  by_cases h : (Text.trim raw.toList).head? = some '!'
  · obtain ⟨r, hr⟩ := List.head?_eq_some_iff.mp h
    rw [hr]
    rfl
  · rw [splitNegation_of_head?_ne h]
    simp [h]

/-- A path that was read has a name. -/
lemma segments_ne_nil_of_parse (h : parse raw = .ok p) : p.segments ≠ [] := by
  rw [parse_eq_ok h]
  simp [pieces, List.splitOn_ne_nil]

/-- A path that was read is negated if its text says so. -/
lemma negated_of_parse (h : parse raw = .ok p) : p.negated = startsNegated raw := by
  rw [parse_eq_ok h, fst_splitNegation_trim]

end Path

/-! ### Following a path -/

/-- The causes for which a path may lead nowhere. -/
inductive PathError.OfWalk : PathError → Prop
  | missingSegment (path segment typeName : String) :
      OfWalk (.missingSegment path segment typeName)
  | nullIntermediate (path segment : String) : OfWalk (.nullIntermediate path segment)
  | notAnObject (path segment : String) : OfWalk (.notAnObject path segment)

namespace Entity

/-- Names lead nowhere as an object does not know one, or as nothing or no object stands at one. -/
lemma ofWalk_of_walk {dotted : String} {names : List String} {e : Entity} {cause : PathError}
    (hnames : names ≠ []) (h : walk dotted names e = .error cause) : cause.OfWalk := by
  induction names generalizing e with
  | nil => exact absurd rfl hnames
  | cons name rest ih =>
      cases rest with
      | nil =>
          rw [walk] at h
          split at h <;> cases h
          exact .missingSegment _ _ _
      | cons next rest =>
          rw [walk] at h
          · split at h
            · exact ih (List.cons_ne_nil next rest) h
            · cases h
              exact .nullIntermediate _ _
            · cases h
              exact .notAnObject _ _
            · cases h
              exact .missingSegment _ _ _
          · exact fun hnil => List.cons_ne_nil next rest hnil

variable {owner : Entity} {p : Path} {cause : PathError}

/-- A path that has a name leads to no slot as an object does not know a name, or as nothing or no
object stands at one. -/
lemma ofWalk_of_locate (hp : p.segments ≠ []) (h : owner.locate p = .error cause) :
    cause.OfWalk :=
  ofWalk_of_walk hp h

/-- A value has no place exactly if its slot has none. -/
lemma resolve_eq_error_iff : owner.resolve p = .error cause ↔ owner.locate p = .error cause := by
  rw [resolve]
  cases owner.locate p <;> simp [Except.map]

end Entity

end FieldRules
