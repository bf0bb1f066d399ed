/-
What a new set of results makes of a store.

* `stale_registerAll`: the fields that a set of results leaves behind;
* `messages_clears`, `messages_commits`: removing the messages of fields, and
  replacing those of fields, one after the other;
* `messages_commitAll`, `events_commitAll`: afterwards each field has its result,
  and a field without one has nothing;
* `names_commitAll`: results of registered fields register none;
* `commitAll_commitAll`: the same results a second time.
-/
import FieldRules.Proofs.Store.Writes

namespace FieldRules

namespace Store

/-- Several different fields that are registered come last, those that are there already stay. -/
lemma names_registerAll (s : Store) {fields : List String} (hnd : fields.Nodup) :
    (s.registerAll fields).names = s.names ++ fields.filter fun f => !s.isRegistered f := by
  have hid : (Prod.fst ∘ fun f : String => (f, ([] : List Message))) = id := rfl
  rw [names, fields_registerAll s hnd, List.map_append, List.map_map, hid, List.map_id, names]

/-- The fields that have messages and are not among those that were registered. -/
lemma stale_registerAll {s : Store} (hs : s.names.Nodup) {fields : List String}
    (hnd : fields.Nodup) :
    (s.registerAll fields).stale fields
      = s.names.filter fun f => !(s.messages f).isEmpty && !fields.contains f := by
  have hnew : ((fields.filter fun f => !s.isRegistered f).filter
      fun f => !(s.messages f).isEmpty && !fields.contains f) = [] := by
    rw [List.filter_eq_nil_iff]
    intro f hf
    simp [(List.mem_filter.mp hf).1]
  have ht : (s.registerAll fields).names.Nodup := (writes_registerAll s fields).nodup_names hs
  rw [stale_eq_filter ht, names_registerAll s hnd, List.filter_append]
  simp only [messages_registerAll]
  rw [hnew, List.append_nil]

lemma messages_clearField (s : Store) (field other : String) :
    (s.clearField field).messages other = if other = field then [] else s.messages other := by
  rw [clearField]
  by_cases hreg : s.isRegistered field = true
  · rw [if_pos hreg]
    by_cases h : other = field
    · rw [if_pos h, h, messages_commit_self]
    · rw [if_neg h, messages_commit_of_ne s h]
  · rw [if_neg hreg]
    by_cases h : other = field
    · rw [if_pos h, h]
      exact messages_of_not_mem (mt isRegistered_iff.mpr hreg)
    · rw [if_neg h]

/-- Fields that lose their messages one after the other have none. -/
lemma messages_clears (s : Store) (fields : List String) (other : String) :
    (fields.foldl clearField s).messages other
      = if other ∈ fields then [] else s.messages other := by
  induction fields generalizing s with
  | nil => simp
  | cons f rest ih =>
      rw [List.foldl_cons, ih, messages_clearField]
      by_cases hrest : other ∈ rest
      · rw [if_pos hrest, if_pos (List.mem_cons_of_mem f hrest)]
      · rw [if_neg hrest]
        by_cases hf : other = f
        · rw [if_pos hf, if_pos (List.mem_cons.mpr (.inl hf))]
        · rw [if_neg hf, if_neg fun h => (List.mem_cons.mp h).elim hf hrest]

/-- Different fields that get their results one after the other have them. -/
lemma messages_commits (s : Store) {results : List (String × List Message)}
    (hnd : (results.map Prod.fst).Nodup) (field : String) :
    (results.foldl (fun s e => s.commit e.1 e.2) s).messages field
      = (results.lookup field).getD (s.messages field) := by
  induction results generalizing s with
  | nil => rfl
  | cons e rest ih =>
      rw [List.map_cons, List.nodup_cons] at hnd
      rw [List.foldl_cons, ih _ hnd.2, List.lookup_cons]
      by_cases h : field = e.1
      · rw [h, lookup_of_not_mem hnd.1, messages_commit_self, beq_self_eq_true]
        rfl
      · rw [beq_eq_false_iff_ne.mpr h, messages_commit_of_ne s h]

/-- After a set of results each field has its own, and a field without one has nothing. -/
lemma messages_commitAll (s : Store) (hs : s.names.Nodup) {results : List (String × List Message)}
    (hnd : (results.map Prod.fst).Nodup) (field : String) :
    (s.commitAll results).messages field = (results.lookup field).getD [] := by
  rw [commitAll, messages_commits _ hnd]
  cases hlookup : results.lookup field with
  | some ms => rfl
  | none =>
      -- a field without a result is stale, or it had no messages before
      have hnot : field ∉ results.map Prod.fst := by
        intro hmem
        obtain ⟨e, he, rfl⟩ := List.mem_map.mp hmem
        rw [lookup_of_mem hnd he] at hlookup
        cases hlookup
      rw [messages_clears, stale_eq_filter hs]
      by_cases hempty : s.messages field = []
      · rw [hempty, ite_self]
      · have hreg : field ∈ s.names := by
          by_contra h
          exact hempty (messages_of_not_mem h)
        rw [if_pos (List.mem_filter.mpr ⟨hreg, by simp [hempty, hnot]⟩)]

/-- A set of results is what its fields have afterwards. -/
lemma events_commitAll (s : Store) (hs : s.names.Nodup) {results : List (String × List Message)}
    (hnd : (results.map Prod.fst).Nodup) :
    results.map (fun r => (⟨r.1, r.2⟩ : Event))
      = (results.map Prod.fst).map fun f => ⟨f, (s.commitAll results).messages f⟩ := by
  rw [List.map_map]
  refine List.map_congr_left fun r hr => ?_
  rw [Function.comp, messages_commitAll s hs hnd, lookup_of_mem hnd hr]
  rfl

/-- Fields that are cleared stay registered. -/
lemma names_clears (s : Store) (fields : List String) :
    (fields.foldl clearField s).names = s.names := by
  induction fields generalizing s with
  | nil => rfl
  | cons f rest ih => rw [List.foldl_cons, ih, names_clearField]

/-- Results of registered fields register no other field. -/
lemma names_commits {s : Store} {results : List (String × List Message)}
    (h : ∀ r ∈ results, r.1 ∈ s.names) :
    (results.foldl (fun s e => s.commit e.1 e.2) s).names = s.names := by
  induction results generalizing s with
  | nil => rfl
  | cons r rest ih =>
      have hfirst : (s.commit r.1 r.2).names = s.names := by
        rw [names_commit, enlist_of_mem (h r List.mem_cons_self)]
      have hrest : ∀ r' ∈ rest, r'.1 ∈ (s.commit r.1 r.2).names :=
        fun r' hr' => hfirst ▸ h r' (List.mem_cons_of_mem r hr')
      rw [List.foldl_cons, ih hrest, hfirst]

/-- If all fields with results are registered, no field is registered with them. -/
lemma names_commitAll {s : Store} {results : List (String × List Message)}
    (h : ∀ r ∈ results, r.1 ∈ s.names) : (s.commitAll results).names = s.names := by
  have hcleared := s.names_clears (s.stale (results.map Prod.fst))
  rw [commitAll, names_commits fun r hr => hcleared ▸ h r hr, hcleared]

/-! ### The same results again -/

/-- Fields that get what they have publish it, and nothing else happens. -/
lemma commits_of_messages {s : Store} {results : List (String × List Message)}
    (h : ∀ r ∈ results, r.1 ∈ s.names ∧ s.messages r.1 = r.2) :
    results.foldl (fun s e => s.commit e.1 e.2) s
      = { s with published := s.published ++ results.map fun e => ⟨e.1, e.2⟩ } := by
  induction results generalizing s with
  | nil => rw [List.map_nil, List.append_nil]; rfl
  | cons r rest ih =>
      obtain ⟨hname, hms⟩ := h r List.mem_cons_self
      have hrest : ∀ r' ∈ rest, r'.1 ∈ (s.notify r.1).names ∧ (s.notify r.1).messages r'.1 = r'.2 :=
        fun r' hr' => h r' (List.mem_cons_of_mem r hr')
      rw [List.foldl_cons, commit_of_messages hname hms, ih hrest, notify, hms, List.map_cons,
        List.append_assoc]
      rfl

/-- A set of results that is stored a second time is published, and nothing else happens. -/
lemma commitAll_commitAll {s : Store} (hs : s.names.Nodup) {results : List (String × List Message)}
    (hnd : (results.map Prod.fst).Nodup) (hreg : ∀ r ∈ results, r.1 ∈ s.names) :
    (s.commitAll results).commitAll results
      = { s.commitAll results with
          published := (s.commitAll results).published ++ results.map fun e => ⟨e.1, e.2⟩ } := by
  have hnames := names_commitAll hreg
  have hmessages := messages_commitAll s hs hnd
  have hstale : (s.commitAll results).stale (results.map Prod.fst) = [] := by
    rw [stale_eq_filter (by rwa [hnames]), List.filter_eq_nil_iff]
    intro f _
    by_cases hf : f ∈ results.map Prod.fst
    · simp [hf]
    · rw [hmessages, lookup_of_not_mem hf]
      simp
  have hhas : ∀ r ∈ results,
      r.1 ∈ (s.commitAll results).names ∧ (s.commitAll results).messages r.1 = r.2 := by
    intro r hr
    rw [hnames, hmessages, lookup_of_mem hnd hr]
    exact ⟨hreg r hr, rfl⟩
  have hagain := commits_of_messages hhas
  rw [← hagain, commitAll, hstale]
  rfl

end Store

end FieldRules
