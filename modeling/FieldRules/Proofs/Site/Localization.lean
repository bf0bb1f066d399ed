/-
All rules, in the words of one localizer or another.

* `Site.speaking`: a site whose object has another localizer;
* `reply_validateAll_speaking`: the reply is the same in all languages;
* `has_validateAll`: which kinds of messages a declared field has once all rules
  were applied;
* `localizers_differ_by_equal_texts`: another localizer changes neither the reply
  nor which fields have messages, and it changes the kinds of messages that they
  have only by giving broken rules of two kinds one text;
* `parcels`, `curt`, `translation_hides_warning`: so it may hide a warning.
-/
import FieldRules.Proofs.RuleBook.Localization
import FieldRules.Proofs.Site.Validation

namespace FieldRules

namespace Site

/-- The site with its object under another localizer. -/
def speaking (s : Site) (l : Option Localizer) : Site :=
  { s with subject := { s.subject with localizer := l } }

variable {m : Model} {s : Site} {b : RuleBook} {e : RuleBook.Entry}

lemma Reachable.speaking (hs : s.Reachable) (l : Option Localizer) : (s.speaking l).Reachable :=
  ⟨hs.registry, hs.store, hs.proxy⟩

/-- The reply to the application of all rules is the same in all languages. -/
lemma reply_validateAll_speaking (hbook : (s.registry.getOrBuild m).1 = .ok b)
    (l l' : Option Localizer) :
    (Action.validateAll.apply m (s.speaking l)).1
      = (Action.validateAll.apply m (s.speaking l')).1 := by
  have herror : errorOf ((s.speaking l).subject.validateAll b).1
      = errorOf ((s.speaking l').subject.validateAll b).1 := by
    have hobject : ((s.speaking l).subject.registerFields b).object
        = ((s.speaking l').subject.registerFields b).object := rfl
    rw [Instance.fst_validateAll, Instance.fst_validateAll, errorOf_map, errorOf_map]
    exact b.errorOf_evaluate hobject l l'
  rw [apply_validateAll (s := s.speaking l) hbook, apply_validateAll (s := s.speaking l') hbook,
    eq_of_errorOf herror]

/-- Once all rules were applied, a declared field has the messages of its broken rules. -/
lemma has_validateAll (hs : s.Reachable) (hbook : (s.registry.getOrBuild m).1 = .ok b)
    (hb : b.Unhandled) (hnd : b.names.Nodup) {l : Option Localizer}
    (hdone : (Action.validateAll.apply m (s.speaking l)).1 = .done) (he : e ∈ b.entries)
    (kind : Option MessageKind) :
    (Action.validateAll.apply m (s.speaking l)).2.subject.store.has (some e.name) kind
      = (e.complaints s.subject l).any (Store.isOfKind kind) := by
  rw [apply_validateAll (s := s.speaking l) hbook] at hdone ⊢
  have hok := Reply.ofUnit_eq_done_iff.mp hdone
  have hregistered : e.name ∈ ((s.speaking l).subject.validateAll b).2.2.store.names := by
    rw [Instance.names_validateAll]
    exact (Store.mem_names_registerAll _ _ _).mpr (.inr (List.mem_map_of_mem he))
  have hreport := Instance.messages_validateAll (hs.speaking l).store.nodup_names hnd hok he
  have hmessages := RuleBook.Entry.messages_of_evaluate (hb e he) hreport
  have hbroken : e.broken ((s.speaking l).subject.registerFields b) = e.broken s.subject :=
    RuleBook.Entry.broken_congr (hb e he) rfl
  have hcomplaints : e.complaints ((s.speaking l).subject.registerFields b) l
      = e.complaints s.subject l := by
    rw [RuleBook.Entry.complaints, RuleBook.Entry.complaints, hbroken]
  calc ((s.speaking l).subject.validateAll b).2.2.store.has (some e.name) kind
      = (((s.speaking l).subject.validateAll b).2.2.store.messages e.name).any
          (Store.isOfKind kind) := Store.has_of_mem_names hregistered kind
    _ = (e.complaints ((s.speaking l).subject.registerFields b) l).any
          (Store.isOfKind kind) := by rw [hmessages]; rfl
    _ = (e.complaints s.subject l).any (Store.isOfKind kind) := by rw [hcomplaints]

end Site

variable {m : Model} {s : Site} {b : RuleBook}

/-- **What another localizer may change**: for rules without handlers, all of them together have an
answer under one localizer if and only if they have one under another, and otherwise end in the same
error. If they have one, a declared field has messages under both or under neither; it has messages
of the same kinds under both unless under one of them two of its broken rules, of different kinds,
say the same. What it has under any localizer are messages of those kinds that have a broken rule
whose text is not that of a broken rule in front of it. -/
theorem localizers_differ_by_equal_texts (hm : m.rules.Declared) (hs : s.Reachable)
    (hbook : (s.registry.getOrBuild m).1 = .ok b) (hb : b.Unhandled) (l l' : Option Localizer) :
    (Action.validateAll.apply m (s.speaking l)).1
        = (Action.validateAll.apply m (s.speaking l')).1 ∧
      ((Action.validateAll.apply m (s.speaking l)).1 = .done → ∀ e ∈ b.entries,
        (Action.validateAll.apply m (s.speaking l)).2.subject.store.has (some e.name) none
            = (Action.validateAll.apply m (s.speaking l')).2.subject.store.has (some e.name) none ∧
          (¬e.Clashes s.subject l → ¬e.Clashes s.subject l' → ∀ kind,
            (Action.validateAll.apply m (s.speaking l)).2.subject.store.has (some e.name) kind
              = (Action.validateAll.apply m (s.speaking l')).2.subject.store.has
                  (some e.name) kind) ∧
          ∀ kind,
            (Action.validateAll.apply m (s.speaking l)).2.subject.store.has (some e.name) kind
                = true ↔
              ∃ front r back, e.broken s.subject = front ++ r :: back ∧
                Store.isOfKind kind (r.candidate l) = true ∧
                ∀ q ∈ front, (q.candidate l).text ≠ (r.candidate l).text) := by
  have hreply := s.reply_validateAll_speaking hbook l l'
  have hnd : b.names.Nodup :=
    (hs.registry.compiled_of_getOrBuild hm (Prod.ext hbook rfl)).nodup_names
  refine ⟨hreply, fun hdone e he => ?_⟩
  have hdone' : (Action.validateAll.apply m (s.speaking l')).1 = .done := hreply ▸ hdone
  have hhas := Site.has_validateAll hs hbook hb hnd hdone he
  have hhas' := Site.has_validateAll hs hbook hb hnd hdone' he
  refine ⟨?_, fun hclash hclash' kind => ?_, fun kind => ?_⟩
  · rw [hhas, hhas', Bool.eq_iff_iff, RuleBook.Entry.any_isOfKind_none_iff,
      RuleBook.Entry.any_isOfKind_none_iff]
  · rw [hhas, hhas', Bool.eq_iff_iff, RuleBook.Entry.any_isOfKind_of_not_clashes hclash,
      RuleBook.Entry.any_isOfKind_of_not_clashes hclash']
  · rw [hhas]
    exact RuleBook.Entry.any_isOfKind_iff

/-! ### Parcels -/

/-- Parcels have a name, of some length. -/
def parcels : Model :=
  ⟨"Parcel",
    RuleTable.empty.field (.ofKey "Name" "Name")
      [.ofClauses .valuePresent [.error "no name", .localized "name.missing"],
        .ofClauses (.lengthGreaterThan 4 none) [.warning "short name", .localized "name.short"]]⟩

/-- A parcel without a name. -/
def parcel : Site :=
  ⟨.empty, ⟨⟨"Parcel", []⟩, none, .empty⟩, none⟩

/-- The rules for the name of a parcel. -/
def parcelName : RuleBook.Entry :=
  ⟨.ofKey "Name" "Name",
    [⟨.present, .error, "no name", some "name.missing", none, none⟩,
      ⟨.longer ⟨4, none⟩, .warning, "short name", some "name.short", none, none⟩]⟩

/-- The localizer that has one text for whatever may be wrong with a name. -/
def curt : Localizer := .ofPairs [("name.missing", "bad name"), ("name.short", "bad name")]

lemma declared_parcels : parcels.rules.Declared := .field _ _ .empty

lemma reachable_parcel : parcel.Reachable := ⟨.empty, .empty, fun _ hp => by cases hp⟩

lemma getOrBuild_parcel :
    (parcel.registry.getOrBuild parcels).1 = .ok ⟨"Parcel", [parcelName], .empty⟩ := rfl

lemma unhandled_parcelName : RuleBook.Unhandled ⟨"Parcel", [parcelName], .empty⟩ := by
  intro e he r hr
  obtain rfl := List.mem_singleton.mp he
  simp only [parcelName, List.mem_cons, List.not_mem_nil, or_false] at hr
  rcases hr with rfl | rfl <;> rfl

/-- A parcel without a name has messages on it under either localizer. -/
theorem parcel_has_messages_either_way :
    parcels.rules.Declared ∧ parcel.Reachable ∧
      RuleBook.Unhandled ⟨"Parcel", [parcelName], .empty⟩ ∧
      (Action.validateAll.apply parcels (parcel.speaking (some curt))).1 = .done ∧
      (Action.validateAll.apply parcels (parcel.speaking (some curt))).2.subject.store.has
        (some "Name") none = true := by
  obtain ⟨hreply, hdone⟩ :=
    localizers_differ_by_equal_texts declared_parcels reachable_parcel getOrBuild_parcel
      unhandled_parcelName none (some curt)
  have hplain : (Action.validateAll.apply parcels (parcel.speaking none)).1 = .done := rfl
  obtain ⟨hsame, _, _⟩ := hdone hplain parcelName List.mem_cons_self
  refine ⟨declared_parcels, reachable_parcel, unhandled_parcelName, hreply ▸ hplain, ?_⟩
  exact hsame.symm.trans rfl

/-- A parcel without a name has an error and a warning; under a localizer with one text for both it
has the error alone. -/
theorem translation_hides_warning :
    parcels.rules.Declared ∧ parcel.Reachable ∧
      (parcel.registry.getOrBuild parcels).1 = .ok ⟨"Parcel", [parcelName], .empty⟩ ∧
      RuleBook.Unhandled ⟨"Parcel", [parcelName], .empty⟩ ∧
      (Action.validateAll.apply parcels (parcel.speaking none)).1 = .done ∧
      (Action.validateAll.apply parcels (parcel.speaking (some curt))).1 = .done ∧
      (Action.validateAll.apply parcels (parcel.speaking none)).2.subject.store.has
        (some "Name") (some .warning) = true ∧
      (Action.validateAll.apply parcels (parcel.speaking (some curt))).2.subject.store.has
        (some "Name") (some .warning) = false :=
  ⟨declared_parcels, reachable_parcel, getOrBuild_parcel, unhandled_parcelName, rfl, rfl, rfl, rfl⟩

end FieldRules
