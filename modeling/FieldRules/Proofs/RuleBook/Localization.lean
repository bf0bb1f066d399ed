/-
Rules in the words of different localizers.

* `RuleBook.Unhandled`: no rule of the book leaves the verdict to a handler;
* `Rule.isBroken`: whether the object breaks a rule, in whatever words;
  `eq_of_validate`: such a rule reports its message if and only if it is broken;
* `Entry.broken`, `Entry.complaints`, `messages_of_evaluate`: the messages of a
  field are those of its broken rules, of those with one text the first, and
  `broken_congr`: which rules are broken is a matter of the object;
* `errorOf_evaluate`: whether rules have an answer does not depend on words;
* `Entry.Clashes`: two broken rules of different kinds say the same;
* `any_isOfKind_iff`, `any_isOfKind_none_iff`, `any_isOfKind_of_not_clashes`:
  which kinds of messages there are among them.
-/
import FieldRules.Proofs.Rule.Soundness

namespace FieldRules

/-- No rule of the book leaves the verdict to a handler. -/
def RuleBook.Unhandled (b : RuleBook) : Prop :=
  ∀ e ∈ b.entries, ∀ r ∈ e.rules, r.handlers = []

/-! ### One rule -/

/-- Without a handler a check fails or passes, and the message that it reports does not matter to
that. -/
lemma Check.validate_candidate {c : Check} (hc : c.delegate? = none) (field : Field)
    (x : Instance) (m m' : Message) :
    c.validate field x m = (c.validate field x m').map (Option.map fun _ => m) := by
  cases c with
  | present =>
      simp only [validate, Except.map]
      split <;> rfl
  | numeric n =>
      rw [validate, validate]
      cases n.passes field.name (field.get x.object) x.object with
      | error e => rfl
      | ok passed => cases passed <;> rfl
  | longer bound =>
      rw [validate, validate]
      cases bound.effective x.object with
      | error e => rfl
      | ok n => cases h : isTooShort n (field.get x.object) <;> simp [Except.map, h]
  | shorter bound =>
      rw [validate, validate]
      cases bound.effective x.object with
      | error e => rfl
      | ok n => cases h : isTooLong n (field.get x.object) <;> simp [Except.map, h]
  | custom delegate =>
      obtain rfl : delegate = none := hc
      rfl

namespace Rule

/-- Whether the object breaks the rule, in whatever words that is told. -/
def isBroken (r : Rule) (field : Field) (x : Instance) : Bool :=
  match r.validate field x none with
  | .ok (some _) => true
  | _ => false

variable {r : Rule} {field : Field} {x : Instance} {l : Option Localizer}

/-- Another localizer changes the words of a rule without handlers, and nothing else. -/
lemma validate_localized (hr : r.handlers = []) (l l' : Option Localizer) :
    r.validate field x l = (r.validate field x l').map (Option.map fun _ => r.candidate l) := by
  have hparts := List.map_eq_nil_iff.mp hr
  rw [List.append_eq_nil_iff, Option.toList_eq_nil_iff, Option.toList_eq_nil_iff] at hparts
  obtain ⟨hcheck, hinterceptor⟩ := hparts
  have hraw : r.intercept field x = id := by
    funext raw
    rw [intercept, hinterceptor]
    rfl
  have hid : ∀ o : Except Error (Option Message), o.map id = o := by
    intro o
    cases o <;> rfl
  rw [validate, validate, hraw]
  cases r.applies x.object with
  | error e => rfl
  | ok applies =>
      cases applies with
      | false => rfl
      | true =>
          simp only [hid]
          exact Check.validate_candidate hcheck field x _ _

/-- A rule that has an answer reports its message if and only if the object breaks it. -/
lemma eq_of_validate (hr : r.handlers = []) {v : Option Message}
    (h : r.validate field x l = .ok v) :
    v = if r.isBroken field x then some (r.candidate l) else none := by
  rw [validate_localized hr l none] at h
  obtain ⟨w, hw, rfl⟩ := map_eq_ok_iff.mp h
  rw [isBroken, hw]
  cases w <;> rfl

/-- Rules that all have answers report the messages of the broken ones. -/
lemma reduceOption_of_validate {rules : List Rule} (hrules : ∀ r ∈ rules, r.handlers = [])
    {verdicts : List (Option Message)}
    (h : List.Forall₂ (fun r v => r.validate field x l = .ok v) rules verdicts) :
    verdicts.reduceOption
      = (rules.filter fun r => r.isBroken field x).map fun r => r.candidate l := by
  induction h with
  | nil => rfl
  | @cons r v rules verdicts hv _ ih =>
      have hrest := ih fun s hs => hrules s (List.mem_cons_of_mem r hs)
      have hfirst := eq_of_validate (hrules r List.mem_cons_self) hv
      rw [hfirst, List.filter_cons]
      split
      · rw [List.reduceOption_cons_of_some, hrest, List.map_cons]
      · rw [List.reduceOption_cons_of_none, hrest]

end Rule

/-! ### The rules of a field -/

namespace RuleBook.Entry

/-- The rules of the field that the object breaks, in order. -/
def broken (e : Entry) (x : Instance) : List Rule :=
  e.rules.filter fun r => r.isBroken e.field x

/-- The messages of the broken rules in the words of the localizer, of those with one text the
first. -/
def complaints (e : Entry) (x : Instance) (l : Option Localizer) : List Message :=
  ((e.broken x).map fun r => r.candidate l).eraseDupsBy Message.sameText

/-- Two broken rules of different kinds say the same in the words of the localizer. -/
def Clashes (e : Entry) (x : Instance) (l : Option Localizer) : Prop :=
  ∃ q ∈ e.broken x, ∃ r ∈ e.broken x, q.kind ≠ r.kind ∧ (q.candidate l).text = (r.candidate l).text

variable {e : Entry} {x : Instance} {l : Option Localizer}

/-- Which rules are broken depends on the object alone. -/
lemma broken_congr (he : ∀ r ∈ e.rules, r.handlers = []) {y : Instance}
    (hxy : x.object = y.object) : e.broken x = e.broken y := by
  refine List.filter_congr fun r hr => ?_
  have hfields : ∀ h ∈ r.handlers, h.FieldsOnly := by
    rw [he r hr]
    exact fun _ hh => nomatch hh
  rw [Rule.isBroken, Rule.isBroken, Rule.validate_congr hfields hxy]

/-- The messages of a field are those of its broken rules. -/
lemma messages_of_evaluate (he : ∀ r ∈ e.rules, r.handlers = []) {ms : List Message}
    (h : (e.evaluate x l).1 = .ok ms) : ms = e.complaints x l := by
  rw [fst_evaluate] at h
  obtain ⟨verdicts, hverdicts, rfl⟩ := map_eq_ok_iff.mp h
  have hreported : verdicts.reduceOption = (e.broken x).map fun r => r.candidate l :=
    Rule.reduceOption_of_validate he (mapM_eq_ok_iff.mp hverdicts)
  rw [complaints, hreported]

/-- Whether the rules of a field have an answer does not depend on the localizer, nor does the error
if they have none. -/
lemma errorOf_evaluate (e : Entry) {y : Instance} (hxy : x.object = y.object)
    (l l' : Option Localizer) :
    errorOf (e.evaluate x l).1 = errorOf (e.evaluate y l').1 := by
  rw [fst_evaluate, fst_evaluate, errorOf_map, errorOf_map, verdicts, verdicts, errorOf_mapM,
    errorOf_mapM]
  congr 1
  funext r
  exact Rule.errorOf_validate_congr rfl rfl hxy

/-! ### Kinds of messages -/

/-- There is a message of the kind if and only if there is a broken rule of the kind whose text is
not that of a broken rule in front of it. -/
lemma any_isOfKind_iff {k : Option MessageKind} :
    (e.complaints x l).any (Store.isOfKind k) = true ↔
      ∃ front r back, e.broken x = front ++ r :: back ∧
        Store.isOfKind k (r.candidate l) = true ∧
        ∀ q ∈ front, (q.candidate l).text ≠ (r.candidate l).text :=
  any_eraseDupsBy_map _ _ _

/-- There are messages if and only if there are broken rules. -/
lemma any_isOfKind_none_iff :
    (e.complaints x l).any (Store.isOfKind none) = true ↔ e.broken x ≠ [] := by
  rw [any_isOfKind_iff]
  constructor
  · rintro ⟨front, r, back, hsplit, -⟩
    simp [hsplit]
  · intro hne
    obtain ⟨r, rest, hcons⟩ := List.exists_cons_of_ne_nil hne
    exact ⟨[], r, rest, hcons, rfl, by simp⟩

/-- If no two kinds of broken rules say the same, there are messages of all kinds of broken
rules. -/
lemma any_isOfKind_of_not_clashes (h : ¬e.Clashes x l) {k : Option MessageKind} :
    (e.complaints x l).any (Store.isOfKind k) = true ↔
      ∃ r ∈ e.broken x, k.all (r.kind == ·) = true := by
  rw [any_isOfKind_iff]
  constructor
  · rintro ⟨front, r, back, hsplit, hkind, -⟩
    have hmem : r ∈ e.broken x := by
      rw [hsplit]
      exact List.mem_append_right front List.mem_cons_self
    exact ⟨r, hmem, hkind⟩
  · rintro ⟨r, hr, hkind⟩
    -- the first broken rule that says the same is of the same kind
    have hsome :
        ((e.broken x).find? fun q => (q.candidate l).text == (r.candidate l).text).isSome :=
      List.find?_isSome.mpr ⟨r, hr, by simp⟩
    obtain ⟨q, hq⟩ := Option.isSome_iff_exists.mp hsome
    obtain ⟨htext, front, back, hsplit, hfront⟩ := List.find?_eq_some_iff_append.mp hq
    have htext' : (q.candidate l).text = (r.candidate l).text := by simpa using htext
    have hsame : q.kind = r.kind := by
      by_contra hne
      exact h ⟨q, List.mem_of_find?_eq_some hq, r, hr, hne, htext'⟩
    refine ⟨front, q, back, hsplit, ?_, fun q' hq' => ?_⟩
    · have hk : Store.isOfKind k (q.candidate l) = k.all (q.kind == ·) := rfl
      rw [hk, hsame]
      exact hkind
    · rw [htext']
      simpa using hfront q' hq'

end RuleBook.Entry

/-- Whether the rules of a book have an answer does not depend on the localizer, nor does the error
if they have none. -/
lemma RuleBook.errorOf_evaluate (b : RuleBook) {x y : Instance} (hxy : x.object = y.object)
    (l l' : Option Localizer) :
    errorOf (b.evaluate x l).1 = errorOf (b.evaluate y l').1 := by
  rw [evaluate, evaluate]
  simp only [fst_evaluateEntries, errorOf_mapM, errorOf_map]
  congr 1
  funext e
  exact e.errorOf_evaluate hxy l l'

end FieldRules
