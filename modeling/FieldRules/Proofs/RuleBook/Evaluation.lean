/-
What the rules of a book report.

* `Entry.verdicts`: what each rule of a field reports by itself, up to the first
  error;
* `Entry.fst_evaluate`: the messages of the field are these, without those whose
  text an earlier one has;
* `Entry.settled`, `Entry.snd_evaluate_of_ok`: the rules of the field after all
  of them were applied;
* `evaluate_eq_ok_iff`, `evaluate_eq_error_iff`, `snd_evaluate_of_ok`: the fields
  of a book one after the other;
* `RuleBook.settle`: the book after the rules of some of its fields were applied,
  and `settle_settle`, `settle_congr`: in whatever order;
* `Entry.fst_evaluate_congr`: none of this depends on the messages that are
  there, if the handlers look at the object alone.
-/
import FieldRules.Proofs.Message.Texts
import FieldRules.Proofs.Rule.FieldsOnly
import FieldRules.Proofs.RuleBook.Compiled
import Mathlib.Data.List.ReduceOption

namespace FieldRules

namespace RuleBook

namespace Entry

/-- What each rule of the field reports by itself, up to the first error. -/
def verdicts (e : Entry) (owner : Instance) (localizer : Option Localizer) :
    Except Error (List (Option Message)) :=
  e.rules.mapM fun r => r.validate e.field owner localizer

/-- The rules of the field after all of them were applied to the object. -/
def settled (e : Entry) (owner : Entity) : Entry :=
  { e with rules := e.rules.map fun r => r.bind e.field owner }

lemma fst_runRules (field : Field) (owner : Instance) (localizer : Option Localizer)
    (rules : List Rule) (found : List Message) :
    (runRules field owner localizer rules found).1
      = (rules.mapM fun (r : Rule) => r.validate field owner localizer).map
          fun vs => vs.reduceOption.foldl insertDistinct found := by
  induction rules generalizing found with
  | nil => rfl
  | cons r rest ih =>
      rw [runRules, Rule.run, List.mapM_cons]
      cases r.validate field owner localizer with
      | error e => rfl
      | ok m =>
          have htail := ih (m.elim found (insertDistinct found))
          simp only [bind, Except.bind]
          rw [htail]
          cases rest.mapM fun r => r.validate field owner localizer with
          | error e => rfl
          | ok vs => cases m <;> rfl

/-- The messages of a field are those that its rules report, of those with one text the first. -/
lemma fst_evaluate (e : Entry) (owner : Instance) (localizer : Option Localizer) :
    (e.evaluate owner localizer).1
      = (e.verdicts owner localizer).map
          fun vs => vs.reduceOption.eraseDupsBy Message.sameText := by
  rw [evaluate, verdicts]
  simp only [fst_runRules, foldl_insertDistinct_nil]

lemma snd_runRules_of_ok {field : Field} {owner : Instance} {localizer : Option Localizer}
    {rules : List Rule} {found ms : List Message}
    (h : (runRules field owner localizer rules found).1 = .ok ms) :
    (runRules field owner localizer rules found).2
      = rules.map fun r => r.bind field owner.object := by
  induction rules generalizing found with
  | nil => rfl
  | cons r rest ih =>
      rw [runRules, Rule.run] at h ⊢
      cases hr : r.validate field owner localizer with
      | error e =>
          rw [hr] at h
          cases h
      | ok m =>
          rw [hr] at h
          simp only [List.map_cons]
          rw [ih h]

/-- If no rule of a field has an error, all of them were applied. -/
lemma snd_evaluate_of_ok {e : Entry} {owner : Instance} {localizer : Option Localizer}
    {ms : List Message} (h : (e.evaluate owner localizer).1 = .ok ms) :
    (e.evaluate owner localizer).2 = e.settled owner.object := by
  rw [evaluate] at h ⊢
  simp only [snd_runRules_of_ok h, settled]

/-- The messages of a field have no text twice. -/
lemma distinctTexts_of_evaluate {e : Entry} {owner : Instance} {localizer : Option Localizer}
    {ms : List Message} (h : (e.evaluate owner localizer).1 = .ok ms) : DistinctTexts ms := by
  rw [fst_evaluate] at h
  cases hv : e.verdicts owner localizer with
  | error err =>
      rw [hv] at h
      cases h
  | ok vs =>
      rw [hv] at h
      obtain rfl : vs.reduceOption.eraseDupsBy Message.sameText = ms := Except.ok.inj h
      rw [← foldl_insertDistinct_nil]
      exact distinctTexts_foldl_insertDistinct distinctTexts_nil _

/-- The messages of a field depend on the object alone, if the handlers of its rules do. -/
lemma fst_evaluate_congr {e : Entry} (he : ∀ r ∈ e.rules, ∀ h ∈ r.handlers, h.FieldsOnly)
    {x y : Instance} (hxy : x.object = y.object) (localizer : Option Localizer) :
    (e.evaluate x localizer).1 = (e.evaluate y localizer).1 := by
  have hverdicts : e.verdicts x localizer = e.verdicts y localizer :=
    mapM_congr fun r hr => Rule.validate_congr (he r hr) hxy e.field localizer
  rw [fst_evaluate, fst_evaluate, hverdicts]

end Entry

/-! ### All fields -/

/-- The messages of the fields, up to the first error. -/
lemma fst_evaluateEntries (owner : Instance) (localizer : Option Localizer)
    (entries : List Entry) :
    (evaluateEntries owner localizer entries).1
      = entries.mapM fun e => (e.evaluate owner localizer).1.map (e.name, ·) := by
  induction entries with
  | nil => rfl
  | cons e rest ih =>
      have hname : (e.evaluate owner localizer).2.name = e.name := rfl
      rw [evaluateEntries, List.mapM_cons]
      cases he : e.evaluate owner localizer with
      | mk result e' =>
          rw [he] at hname
          cases result with
          | error err => rfl
          | ok ms =>
              simp only [ih, hname]
              cases rest.mapM fun e => (e.evaluate owner localizer).1.map (e.name, ·) <;> rfl

lemma snd_evaluateEntries_of_ok {owner : Instance} {localizer : Option Localizer}
    {entries : List Entry} {results : List (String × List Message)}
    (h : (evaluateEntries owner localizer entries).1 = .ok results) :
    (evaluateEntries owner localizer entries).2 = entries.map fun e => e.settled owner.object := by
  induction entries generalizing results with
  | nil => rfl
  | cons e rest ih =>
      rw [evaluateEntries] at h ⊢
      cases he : e.evaluate owner localizer with
      | mk result e' =>
          rw [he] at h
          cases result with
          | error err => cases h
          | ok ms =>
              have hsettled : (e.evaluate owner localizer).2 = e.settled owner.object :=
                Entry.snd_evaluate_of_ok (by rw [he])
              rw [he] at hsettled
              cases hrest : (evaluateEntries owner localizer rest).1 with
              | error err =>
                  simp only [hrest] at h
                  cases h
              | ok results' =>
                  simp only [List.map_cons]
                  rw [ih hrest, ← hsettled]

variable {b : RuleBook} {owner : Instance} {localizer : Option Localizer}

/-- The results of the fields, in order, are what their rules report. -/
def Reports (b : RuleBook) (owner : Instance) (localizer : Option Localizer)
    (results : List (String × List Message)) : Prop :=
  List.Forall₂ (fun e r => (e.evaluate owner localizer).1 = .ok r.2 ∧ r.1 = e.name)
    b.entries results

lemma Reports.names_eq {results : List (String × List Message)}
    (h : b.Reports owner localizer results) : results.map Prod.fst = b.names :=
  (map_eq_map_of_forall₂ (h.imp fun _ _ hr => hr.2.symm)).symm

/-- All rules have an answer if and only if those of each field have one. -/
lemma evaluate_eq_ok_iff {results : List (String × List Message)} :
    (b.evaluate owner localizer).1 = .ok results ↔ b.Reports owner localizer results := by
  have hresult : ∀ (e : Entry) (r : String × List Message),
      (e.evaluate owner localizer).1.map (e.name, ·) = .ok r ↔
        (e.evaluate owner localizer).1 = .ok r.2 ∧ r.1 = e.name := by
    intro e r
    obtain ⟨name, ms⟩ := r
    cases (e.evaluate owner localizer).1 with
    | error err => simp [Except.map]
    | ok ms' =>
        simp only [Except.map, Except.ok.injEq, Prod.mk.injEq, eq_comm (a := name)]
        exact and_comm
  rw [evaluate, Reports]
  simp only [fst_evaluateEntries, mapM_eq_ok_iff, hresult]

/-- All rules together end in the error of the first field that has one. -/
lemma evaluate_eq_error_iff {err : Error} :
    (b.evaluate owner localizer).1 = .error err ↔
      ∃ front e back, b.entries = front ++ e :: back ∧
        (∀ e' ∈ front, ∃ ms, (e'.evaluate owner localizer).1 = .ok ms) ∧
        (e.evaluate owner localizer).1 = .error err := by
  have hok : ∀ e : Entry, (∃ r, (e.evaluate owner localizer).1.map (e.name, ·) = .ok r) ↔
      ∃ ms, (e.evaluate owner localizer).1 = .ok ms := by
    intro e
    cases (e.evaluate owner localizer).1 <;> simp [Except.map]
  have herror : ∀ e : Entry, (e.evaluate owner localizer).1.map (e.name, ·) = .error err ↔
      (e.evaluate owner localizer).1 = .error err := by
    intro e
    cases (e.evaluate owner localizer).1 <;> simp [Except.map]
  rw [evaluate]
  simp only [fst_evaluateEntries, mapM_eq_error_iff, hok, herror]

/-- The book after all rules of these fields were applied to the object. -/
def settle (b : RuleBook) (owner : Entity) (fields : List String) : RuleBook :=
  { b with entries := b.entries.map fun e => if e.name ∈ fields then e.settled owner else e }

/-- If all rules have an answer, every one of them was applied. -/
lemma snd_evaluate_of_ok {results : List (String × List Message)}
    (h : (b.evaluate owner localizer).1 = .ok results) :
    (b.evaluate owner localizer).2 = b.settle owner.object b.names := by
  have hall : (b.entries.map fun e => if e.name ∈ b.names then e.settled owner.object else e)
      = b.entries.map fun e => e.settled owner.object :=
    List.map_congr_left fun e he => if_pos (List.mem_map_of_mem he)
  rw [evaluate] at h ⊢
  rw [settle, hall]
  simp only [snd_evaluateEntries_of_ok h]

/-! ### One field -/

/-- If the rules of a field have an answer, all of them were applied, and no others. -/
lemma snd_evaluateEntry_of_ok (hb : b.names.Nodup) {e : Entry} (he : e ∈ b.entries)
    {ms : List Message} (h : (e.evaluate owner localizer).1 = .ok ms) :
    (b.evaluateEntry e owner localizer).2 = b.settle owner.object [e.name] := by
  rw [evaluateEntry, settle]
  simp only [Entry.snd_evaluate_of_ok h]
  rw [replaceEntry_eq_map hb]
  congr 1
  refine List.map_congr_left fun old hold => ?_
  by_cases hname : old.name = (e.settled owner.object).name
  · have hmem : old.name ∈ [e.name] := List.mem_singleton.mpr hname
    rw [if_pos hname, if_pos hmem, List.inj_on_of_nodup_map hb hold he hname]
  · have hmem : old.name ∉ [e.name] := mt List.mem_singleton.mp hname
    rw [if_neg hname, if_neg hmem]

/-! ### Field after field -/

@[simp] lemma settle_nil (b : RuleBook) (owner : Entity) : b.settle owner [] = b := by
  simp [settle]

/-- The fields of a book keep their names and their order. -/
@[simp] lemma names_settle (b : RuleBook) (owner : Entity) (fields : List String) :
    (b.settle owner fields).names = b.names := by
  rw [names, settle, List.map_map, names]
  refine List.map_congr_left fun e _ => ?_
  rw [Function.comp]
  split <;> rfl

/-- A field whose rules were not applied is as it was. -/
lemma mem_settle {e : Entry} (he : e ∈ b.entries) {fields : List String} (hfresh : e.name ∉ fields)
    (owner : Entity) : e ∈ (b.settle owner fields).entries :=
  List.mem_map.mpr ⟨e, he, if_neg hfresh⟩

/-- To apply the rules of one more field is to apply them behind those of the others. -/
lemma settle_settle {fields : List String} {field : String} (hfresh : field ∉ fields)
    (b : RuleBook) (owner : Entity) :
    (b.settle owner fields).settle owner [field] = b.settle owner (fields ++ [field]) := by
  rw [settle, settle, settle]
  congr 1
  rw [List.map_map]
  refine List.map_congr_left fun e _ => ?_
  rw [Function.comp]
  by_cases hdone : e.name ∈ fields
  · have hother : (e.settled owner).name ∉ [field] :=
      fun h => hfresh (List.mem_singleton.mp h ▸ hdone)
    rw [if_pos hdone, if_pos (List.mem_append_left [field] hdone), if_neg hother]
  · rw [if_neg hdone]
    simp only [List.mem_append, hdone, false_or]

/-- It does not matter in which order the rules of fields were applied. -/
lemma settle_congr {fields fields' : List String} (h : ∀ f, f ∈ fields ↔ f ∈ fields')
    (b : RuleBook) (owner : Entity) : b.settle owner fields = b.settle owner fields' := by
  rw [settle, settle]
  simp only [h]

end RuleBook

end FieldRules
