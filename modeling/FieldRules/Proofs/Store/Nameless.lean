/-
Fields without a name.

* `Action.RegistersNameless`, `Use.RegistersNameless`: the calls that register a
  field without a name;
* `Action.mem_registers_nameless_iff`, `Use.nameless_apply_iff`: a call registers
  such a field if and only if it is one of these;
* `Store.nameless_after_iff`: so it is for all calls together;
* `nameless_field_is_registered_on_request`: when a question without a name is
  about all fields, and when it is about a field without a name;
* `nameless_field_hides_late_name`: a store in which it is about the latter.
-/
import FieldRules.Proofs.Site.Registration

namespace FieldRules

/-! ### One call -/

/-- The action registers a field without a name: it is told to, or the model declares one and the
action registers the declared fields. -/
def Action.RegistersNameless (m : Model) (r : Registry) (a : Action) : Prop :=
  a = .registerField "" ∨ a.registersDeclared = true ∧ "" ∈ r.declared m

/-- The call registers a field without a name in the store. In place of the store of another object
no call does so. -/
def Use.RegistersNameless : Use → Prop
  | own m site a => a.RegistersNameless m site.registry
  | proxy _ _ _ => False

/-- A field that is left out if it has no name has one. -/
lemma nameless_not_mem {field : String} {c : Prop} [Decidable c] (h : field.isEmpty = true → c) :
    "" ∉ if c then [] else [field] := by
  split
  · exact List.not_mem_nil
  · rename_i hc
    rw [List.mem_singleton]
    rintro rfl
    exact hc (h rfl)

lemma Action.mem_registers_nameless_iff (m : Model) (s : Site) (a : Action) :
    "" ∈ a.registers m s ↔ a.RegistersNameless m s.registry := by
  cases a with
  | registerRuleFields | validateAll | validateField _ =>
      simp [registers, RegistersNameless, registersDeclared]
  | refresh field | perform _ field =>
      cases hne : field.isEmpty <;> simp [registers, RegistersNameless, registersDeclared, hne]
  | delegate check failure field =>
      have hnamed : "" ∉ (delegate check failure field).registers m s :=
        nameless_not_mem fun hempty => by rw [hempty, Bool.or_true, Bool.true_or]
      simp [hnamed, RegistersNameless, registersDeclared]
  | add msg field =>
      have hnamed : "" ∉ (add msg field).registers m s := nameless_not_mem id
      simp [hnamed, RegistersNameless, registersDeclared]
  | registerField field => simp [registers, RegistersNameless, registersDeclared, eq_comm]
  | remove _ _ | clearField _ | clear | notify _ | fieldMessages =>
      simp [registers, RegistersNameless, registersDeclared]

/-- A field without a name is registered after a call if it was before, or if the call registers
it. -/
lemma Use.nameless_apply_iff (u : Use) (s : Store) :
    "" ∈ (u.apply s).names ↔ "" ∈ s.names ∨ u.RegistersNameless := by
  cases u with
  | own m site a =>
      rw [Use.apply, Action.names_apply, Store.mem_names_registerAll,
        Action.mem_registers_nameless_iff]
      rfl
  | proxy m site a =>
      have hproxy : ({ site with proxy := some s } : Site).proxy = some s := rfl
      obtain ⟨q, hq, hsame | ⟨field, hne, hchanges⟩⟩ := a.proxy_apply_cases (m := m) hproxy
      · rw [Use.apply, hq, hsame]
        simp [RegistersNameless]
      · have hname : "" ≠ field := by
          rintro rfl
          cases hne
        rw [Use.apply, hq]
        simp [RegistersNameless, hchanges.mem_names_iff hname]

namespace Store

/-! ### All calls -/

/-- A field without a name is registered after calls if it was before, or if one of them registers
it. -/
lemma nameless_after_iff (s : Store) (uses : List Use) :
    "" ∈ (s.after uses).names ↔ "" ∈ s.names ∨ ∃ u ∈ uses, u.RegistersNameless := by
  induction uses generalizing s with
  | nil => simp [after]
  | cons u rest ih =>
      have hrest := ih (u.apply s)
      rw [u.nameless_apply_iff, or_assoc] at hrest
      rw [List.exists_mem_cons_iff]
      exact hrest

/-- **Fields without a name**: whatever calls a store takes part in, it has a field without a name
if and only if it had one before, or one of the calls was told to register it, or one of them
registered the declared fields of a model that declares one. As long as there is none, a question
without a name is about all fields, whatever kind of messages it asks for; once there is one, it is
about this field alone. To validate without a name is to apply all rules either way. -/
theorem nameless_field_is_registered_on_request (s : Store) (uses : List Use) :
    ("" ∈ (s.after uses).names ↔ "" ∈ s.names ∨ ∃ u ∈ uses, u.RegistersNameless) ∧
      ("" ∉ (s.after uses).names →
        ∀ kind, (s.after uses).has (some "") kind = (s.after uses).has none kind) ∧
      ("" ∈ (s.after uses).names →
        ∀ kind, (s.after uses).has (some "") kind
          = ((s.after uses).messages "").any (isOfKind kind)) ∧
      ∀ m site, (Action.validateField "").apply m site = Action.validateAll.apply m site := by
  refine ⟨s.nameless_after_iff uses, has_of_not_mem_names, has_of_mem_names, fun m site => ?_⟩
  have hall : (fun (x : Instance) (b : RuleBook) => x.validateField b "")
      = Instance.validateAll := by
    funext x b
    exact Instance.validateField_of_isEmpty rfl
  rw [Action.apply, Action.apply, hall]

/-- Something is wrong with a name. -/
def lateCall : Use := .own orders (order sevenUnits) (.add ⟨.error, "late"⟩ "Name")

/-- A field is registered that has no name. -/
def namelessCall : Use := .own orders (order sevenUnits) (.registerField "")

/-- As long as no field without a name is registered, a question without a name finds the message on
the name. -/
theorem question_without_name_finds_late_name :
    "" ∉ (Store.empty.after [lateCall]).names ∧
      (Store.empty.after [lateCall]).has (some "") (some .error) = true ∧
      "" ∈ (Store.empty.after [lateCall, namelessCall]).names := by
  have hnot : "" ∉ (Store.empty.after [lateCall]).names := by decide
  have hregisters : namelessCall.RegistersNameless := Or.inl rfl
  obtain ⟨_, hall, _⟩ := nameless_field_is_registered_on_request .empty [lateCall]
  obtain ⟨hregistered, _⟩ :=
    nameless_field_is_registered_on_request .empty [lateCall, namelessCall]
  exact ⟨hnot, (hall hnot (some .error)).trans rfl,
    hregistered.mpr (.inr ⟨namelessCall, List.mem_cons_of_mem _ List.mem_cons_self, hregisters⟩)⟩

/-- A field without a name hides the message on the name: it has none, and so the question is told
that there are none at all. -/
theorem nameless_field_hides_late_name :
    (Store.empty.after [namelessCall, lateCall]).names = ["", "Name"] ∧
      (Store.empty.after [namelessCall, lateCall]).has (some "") none = false ∧
      (Store.empty.after [namelessCall, lateCall]).has none none = true :=
  ⟨rfl, rfl, rfl⟩

end Store

end FieldRules
