/-
The registered fields of a store.

* `has_of_mem_names`, `has_of_not_mem_names`: a question about a registered field
  is about it alone, one about any other name is about all fields;
* `names_register`, `names_commit`: a field that is not registered comes last;
  a registered one keeps its place;
* `fields_registerAll`: registering several fields appends those that are not
  registered yet, in their order, with no messages;
* `commit_of_messages`: a field that gets what it has stays as it is;
* `messages_eq_of_mem`: if no field is registered twice, reading a field and
  walking through all of them agree;
* `stale_eq_filter`: so do the two ways to find the fields that a new set of
  results leaves behind.
-/
import FieldRules.Store
import FieldRules.Proofs.Enlisting

namespace FieldRules

namespace Store

lemma isRegistered_iff {s : Store} {field : String} :
    s.isRegistered field = true ↔ field ∈ s.names := by
  simp [isRegistered]

lemma isRegistered_eq_false_iff {s : Store} {field : String} :
    s.isRegistered field = false ↔ field ∉ s.names := by
  rw [← isRegistered_iff, Bool.not_eq_true]

/-- Asked about a registered field, a store answers for that field. -/
lemma has_of_mem_names {s : Store} {field : String} (h : field ∈ s.names)
    (kind : Option MessageKind) :
    s.has (some field) kind = (s.messages field).any (isOfKind kind) := by
  have hfield : (some field).filter s.isRegistered = some field := by
    rw [Option.filter_some, if_pos (isRegistered_iff.mpr h)]
  rw [has, hfield]

/-- Asked about a name that is not registered, a store answers for all fields. -/
lemma has_of_not_mem_names {s : Store} {field : String} (h : field ∉ s.names)
    (kind : Option MessageKind) : s.has (some field) kind = s.has none kind := by
  have hfield : (some field).filter s.isRegistered = none := by
    rw [Option.filter_some, if_neg (mt isRegistered_iff.mp h)]
  rw [has, hfield]
  rfl

/-! ### Registering -/

/-- A registered field stays as it is. -/
lemma register_of_mem {s : Store} {field : String} (h : field ∈ s.names) :
    s.register field = s := by
  rw [register, if_pos (isRegistered_iff.mpr h)]

/-- A field that is not registered comes last once it is, with no messages. -/
lemma register_of_not_mem {s : Store} {field : String} (h : field ∉ s.names) :
    s.register field = { s with fields := s.fields ++ [(field, [])] } := by
  rw [register, if_neg (by rwa [isRegistered_iff])]

lemma names_register (s : Store) (field : String) :
    (s.register field).names = enlist s.names field := by
  by_cases h : field ∈ s.names
  · rw [register_of_mem h, enlist_of_mem h]
  · rw [register_of_not_mem h, enlist_of_not_mem h]
    simp [names]

/-- Registering several fields publishes nothing. -/
@[simp] lemma published_registerAll (s : Store) (fields : List String) :
    (s.registerAll fields).published = s.published := by
  induction fields generalizing s with
  | nil => rfl
  | cons f rest ih => exact (ih (s.register f)).trans (published_register s f)

/-- Registering several fields changes no messages. -/
@[simp] lemma messages_registerAll (s : Store) (fields : List String) (other : String) :
    (s.registerAll fields).messages other = s.messages other := by
  induction fields generalizing s with
  | nil => rfl
  | cons f rest ih => exact (ih (s.register f)).trans (messages_register s f other)

lemma mem_names_registerAll (s : Store) (fields : List String) (other : String) :
    other ∈ (s.registerAll fields).names ↔ other ∈ s.names ∨ other ∈ fields := by
  induction fields generalizing s with
  | nil => simp [registerAll]
  | cons f rest ih =>
      have h := ih (s.register f)
      rw [names_register, mem_enlist, or_assoc] at h
      rw [List.mem_cons]
      exact h

/-- Fields that are registered are not registered again. -/
lemma registerAll_of_mem {s : Store} {fields : List String} (h : ∀ f ∈ fields, f ∈ s.names) :
    s.registerAll fields = s := by
  induction fields with
  | nil => rfl
  | cons f rest ih =>
      change (s.register f).registerAll rest = s
      rw [register_of_mem (h f List.mem_cons_self)]
      exact ih fun g hg => h g (List.mem_cons_of_mem f hg)

/-- Registering several different fields appends those that are not registered yet, in their order
and with no messages. -/
lemma fields_registerAll (s : Store) {fields : List String} (hnd : fields.Nodup) :
    (s.registerAll fields).fields
      = s.fields ++ (fields.filter fun f => !s.isRegistered f).map fun f => (f, []) := by
  induction fields generalizing s with
  | nil => simp [registerAll]
  | cons f rest ih =>
      rw [List.nodup_cons] at hnd
      have h := ih (s.register f) hnd.2
      change (s.registerAll (f :: rest)).fields = _ at h
      rw [h, List.filter_cons]
      by_cases hf : f ∈ s.names
      · rw [register_of_mem hf, if_neg (by simp [isRegistered_iff.mpr hf])]
      · -- none of the fields to come is the one just registered
        have hrest : (rest.filter fun g => !(s.register f).isRegistered g)
            = rest.filter fun g => !s.isRegistered g := by
          refine List.filter_congr fun g hg => ?_
          have hne : g ≠ f := fun heq => hnd.1 (heq ▸ hg)
          congr 1
          rw [Bool.eq_iff_iff, isRegistered_iff, isRegistered_iff, names_register, mem_enlist]
          simp [hne]
        rw [hrest, register_of_not_mem hf, if_pos (by simp [isRegistered_eq_false_iff.mpr hf])]
        simp

/-! ### Committing -/

lemma map_fst_replace (field : String) (ms : List Message) (fs : List (String × List Message)) :
    (replace field ms fs).map Prod.fst = enlist (fs.map Prod.fst) field := by
  induction fs with
  | nil => rfl
  | cons e rest ih =>
      obtain ⟨name, old⟩ := e
      by_cases h : name = field
      · rw [replace, if_pos h, List.map_cons, List.map_cons, h, enlist_cons_self]
      · rw [replace, if_neg h, List.map_cons, List.map_cons, enlist_cons_of_ne h, ih]

@[simp] lemma messages_notify (s : Store) (field other : String) :
    (s.notify field).messages other = s.messages other := rfl

lemma names_commit (s : Store) (field : String) (ms : List Message) :
    (s.commit field ms).names = enlist s.names field :=
  map_fst_replace field ms s.fields

/-- A field that is replaced by what it has stays as it is. -/
lemma replace_lookup {field : String} {fs : List (String × List Message)}
    (h : field ∈ fs.map Prod.fst) : replace field ((fs.lookup field).getD []) fs = fs := by
  induction fs with
  | nil => cases h
  | cons e rest ih =>
      obtain ⟨name, old⟩ := e
      by_cases hname : name = field
      · rw [replace, if_pos hname, hname, List.lookup_cons, beq_self_eq_true]
        rfl
      · have hne : (field == name) = false := by simpa using Ne.symm hname
        have hrest : field ∈ rest.map Prod.fst := by simpa [Ne.symm hname] using h
        rw [replace, if_neg hname, List.lookup_cons, hne]
        exact congrArg _ (ih hrest)

/-- A registered field that gets what it has keeps it, and that is published. -/
lemma commit_of_messages {s : Store} {field : String} {ms : List Message} (h : field ∈ s.names)
    (hms : s.messages field = ms) : s.commit field ms = s.notify field := by
  have hfields : replace field ms s.fields = s.fields := by
    rw [← hms]
    exact replace_lookup h
  rw [commit, hfields]

/-! ### Reading -/

/-- A name without an entry has nothing beside it. -/
lemma lookup_of_not_mem {fs : List (String × List Message)} {field : String}
    (h : field ∉ fs.map Prod.fst) : fs.lookup field = none := by
  rw [List.lookup_eq_none_iff]
  intro e he
  simpa using fun heq : field = e.1 => h (heq ▸ List.mem_map_of_mem he)

/-- If no name has two entries, a name has what stands beside it. -/
lemma lookup_of_mem {fs : List (String × List Message)} (hnd : (fs.map Prod.fst).Nodup)
    {e : String × List Message} (he : e ∈ fs) : fs.lookup e.1 = some e.2 := by
  obtain ⟨front, back, hsplit⟩ := List.append_of_mem he
  rw [hsplit, List.map_append] at hnd
  have hfront : ∀ p ∈ front, (e.1 != p.1) = true := by
    intro p hp
    have hname : p.1 ∈ front.map Prod.fst := List.mem_map_of_mem hp
    have hne : p.1 ≠ e.1 := fun heq =>
      List.disjoint_of_nodup_append hnd hname (heq ▸ List.mem_cons_self)
    exact bne_iff_ne.mpr hne.symm
  exact List.lookup_eq_some_iff.mpr ⟨front, back, hsplit, hfront⟩

/-- A field that is not registered has no messages. -/
lemma messages_of_not_mem {s : Store} {field : String} (h : field ∉ s.names) :
    s.messages field = [] := by
  rw [messages, lookup_of_not_mem h]
  rfl

/-- If no field is registered twice, a field has what stands beside its name. -/
lemma messages_eq_of_mem {s : Store} (hnd : s.names.Nodup) {e : String × List Message}
    (he : e ∈ s.fields) : s.messages e.1 = e.2 := by
  rw [messages, lookup_of_mem hnd he]
  rfl

/-- The fields that have messages and are not among the given ones, found by their names. -/
lemma stale_eq_filter {s : Store} (hnd : s.names.Nodup) (fields : List String) :
    s.stale fields
      = s.names.filter fun f => !(s.messages f).isEmpty && !fields.contains f := by
  rw [stale, names, List.filter_map]
  congr 1
  refine List.filter_congr fun e he => ?_
  rw [Function.comp, messages_eq_of_mem hnd he]

end Store

end FieldRules
