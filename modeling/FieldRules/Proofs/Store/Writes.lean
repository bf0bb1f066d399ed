/-
What becomes of a store, write by write.

* `lastPayload`: the messages that the last event of a field carries;
* `Store.Writes`: one store becomes another by registering fields, replacing
  the messages of fields and publishing what fields have, and these are the
  events that this publishes;
* `Writes.published`, `Writes.messages`: the events are those that the second
  store has in addition, and they tell its messages;
* `Store.Announces`: what one store has published in addition to another are
  different fields, each with what it has now, and no other field has changed;
  `Writes.announces`: so it is if no field is published twice;
* `Writes.names_prefix`, `Writes.nodup_names`, `Writes.distinctTexts`: what
  such a series of writes leaves alone;
* `Store.WritesOnce`: such a series without a field that is published twice;
  `writesOnce_commit`, `writesOnce_clearField`: to write to one field is one;
* `writes_clear`, `writes_commitAll`, `writes_add`, `writes_remove`: the
  operations on stores are such series, with these events;
* `FiresOnChange`: an event is published if and only if a field changes;
* `messages_of_add`, `messages_of_add_of_ne`: the messages once one was added;
* `names_add`, `names_remove`: the fields once a message was added or removed.
-/
import FieldRules.Proofs.Message.Texts
import FieldRules.Proofs.Store.Names

namespace FieldRules

/-- The messages that the last event of the field carries, if it has one. -/
def lastPayload (field : String) (es : List Event) : Option (List Message) :=
  (es.reverse.find? fun e => e.field == field).map Event.messages

lemma lastPayload_append_singleton (field : String) (es : List Event) (e : Event) :
    lastPayload field (es ++ [e])
      = if e.field = field then some e.messages else lastPayload field es := by
  rw [lastPayload, List.reverse_append, List.reverse_singleton, List.singleton_append,
    List.find?_cons]
  by_cases h : e.field = field
  · simp [h]
  · rw [if_neg h, beq_eq_false_iff_ne.mpr h]
    rfl

/-- The last event of a field stands as far back as possible. -/
lemma lastPayload_append (field : String) (es es' : List Event) :
    lastPayload field (es ++ es') = (lastPayload field es').or (lastPayload field es) := by
  rw [lastPayload, List.reverse_append, List.find?_append, Option.map_or]
  rfl

/-- A field that has an event has a last one. -/
lemma exists_lastPayload {es : List Event} {e : Event} (he : e ∈ es) :
    ∃ ms, lastPayload e.field es = some ms := by
  rw [← Option.isSome_iff_exists, lastPayload, Option.isSome_map, List.find?_isSome]
  exact ⟨e, List.mem_reverse.mpr he, beq_self_eq_true e.field⟩

/-- A field without an event has no last one. -/
lemma lastPayload_of_not_mem {field : String} {es : List Event}
    (h : field ∉ es.map Event.field) : lastPayload field es = none := by
  rw [lastPayload, Option.map_eq_none_iff, List.find?_eq_none]
  intro e he heq
  exact h (eq_of_beq heq ▸ List.mem_map_of_mem (List.mem_reverse.mp he))

/-- If no field has two events, each event is the last one of its field. -/
lemma lastPayload_of_mem {es : List Event} (hnd : (es.map Event.field).Nodup) {e : Event}
    (he : e ∈ es) : lastPayload e.field es = some e.messages := by
  obtain ⟨front, back, rfl⟩ := List.append_of_mem he
  rw [List.map_append, List.map_cons] at hnd
  have hback : e.field ∉ back.map Event.field := (List.nodup_cons.mp hnd.of_append_right).1
  rw [List.append_cons, lastPayload_append, lastPayload_of_not_mem hback, Option.none_or,
    lastPayload_append_singleton, if_pos rfl]

namespace Store

/-- The store `s` becomes another by registering fields, replacing the messages of fields and
publishing what fields have, and these are the events that this publishes. Where a field had no text
twice, what replaces its messages has none twice. -/
inductive Writes (s : Store) : List Event → Store → Prop
  | refl : Writes s [] s
  | register {es : List Event} {t : Store} (field : String) (h : Writes s es t) :
      Writes s es (t.register field)
  | commit {es : List Event} {t : Store} (field : String) {ms : List Message}
      (hms : DistinctTexts (t.messages field) → DistinctTexts ms) (h : Writes s es t) :
      Writes s (es ++ [⟨field, ms⟩]) (t.commit field ms)
  | notify {es : List Event} {t : Store} (field : String) (h : Writes s es t) :
      Writes s (es ++ [⟨field, t.messages field⟩]) (t.notify field)

namespace Writes

variable {s t u : Store} {es es' : List Event}

/-- Series of writes follow one another. -/
lemma trans (h : s.Writes es t) (h' : t.Writes es' u) : s.Writes (es ++ es') u := by
  induction h' with
  | refl => rwa [List.append_nil]
  | register field _ ih => exact ih.register field
  | commit field hms _ ih =>
      rw [← List.append_assoc]
      exact ih.commit field hms
  | notify field _ ih =>
      rw [← List.append_assoc]
      exact ih.notify field

/-- The events of writes are those that the second store has in addition. -/
lemma published (h : s.Writes es t) : t.published = s.published ++ es := by
  induction h with
  | refl => rw [List.append_nil]
  | register field _ ih => rw [published_register, ih]
  | commit field _ _ ih => rw [published_commit, ih, List.append_assoc]
  | notify field _ ih => rw [Store.notify, ih, List.append_assoc]

/-- A field has what its last event carries, and what it had before if it has none. -/
lemma messages (h : s.Writes es t) (field : String) :
    t.messages field = (lastPayload field es).getD (s.messages field) := by
  induction h with
  | refl => rfl
  | register other _ ih => rw [messages_register, ih]
  | @commit es t other ms _ _ ih =>
      rw [lastPayload_append_singleton]
      by_cases hf : other = field
      · rw [if_pos hf, hf, messages_commit_self]
        rfl
      · rw [if_neg hf, messages_commit_of_ne t (Ne.symm hf), ih]
  | @notify es t other _ ih =>
      rw [lastPayload_append_singleton, messages_notify]
      by_cases hf : other = field
      · rw [if_pos hf, hf]
        rfl
      · rw [if_neg hf, ih]

/-- Writes drop or move no field. -/
lemma names_prefix (h : s.Writes es t) : s.names <+: t.names := by
  induction h with
  | refl => exact List.prefix_refl _
  | register field _ ih =>
      rw [names_register]
      exact ih.trans (prefix_enlist _ field)
  | commit field _ _ ih =>
      rw [names_commit]
      exact ih.trans (prefix_enlist _ field)
  | notify field _ ih => exact ih

/-- Writes register no field a second time. -/
lemma nodup_names (h : s.Writes es t) (hs : s.names.Nodup) : t.names.Nodup := by
  induction h with
  | refl => exact hs
  | register field _ ih =>
      rw [names_register]
      exact nodup_enlist ih field
  | commit field _ _ ih =>
      rw [names_commit]
      exact nodup_enlist ih field
  | notify field _ ih => exact ih

/-- Writes give no field a text twice. -/
lemma distinctTexts (h : s.Writes es t) (hs : ∀ f, DistinctTexts (s.messages f)) :
    ∀ f, DistinctTexts (t.messages f) := by
  induction h with
  | refl => exact hs
  | register field _ ih =>
      intro f
      rw [messages_register]
      exact ih f
  | @commit es t field ms hms _ ih =>
      intro f
      by_cases hf : f = field
      · rw [hf, messages_commit_self]
        exact hms (ih field)
      · rw [messages_commit_of_ne t hf]
        exact ih f
  | notify field _ ih => exact ih

end Writes

/-- What the second store has published in addition to the first are these events. They are of
different fields, each carries what its field has in the second store, and all other fields have the
same messages in both. -/
structure Announces (s : Store) (es : List Event) (t : Store) : Prop where
  /-- The events are published behind those that there are. -/
  published : t.published = s.published ++ es
  /-- No field has two of them. -/
  once : (es.map Event.field).Nodup
  /-- An event carries what its field has afterwards. -/
  current : ∀ e ∈ es, t.messages e.field = e.messages
  /-- A field without an event has what it had before. -/
  others : ∀ field, field ∉ es.map Event.field → t.messages field = s.messages field

/-- A series of writes that publishes no field twice announces what it leaves. -/
lemma Writes.announces {s t : Store} {es : List Event} (h : s.Writes es t)
    (hnd : (es.map Event.field).Nodup) : s.Announces es t where
  published := h.published
  once := hnd
  current := fun e he => by rw [h.messages, lastPayload_of_mem hnd he, Option.getD_some]
  others := fun field hfield => by rw [h.messages, lastPayload_of_not_mem hfield, Option.getD_none]

/-- The first store becomes the second one by writes that publish no field twice. -/
def WritesOnce (s t : Store) : Prop :=
  ∃ es, s.Writes es t ∧ (es.map Event.field).Nodup

lemma WritesOnce.refl (s : Store) : s.WritesOnce s :=
  ⟨[], .refl, List.nodup_nil⟩

/-- A commit publishes one field. -/
lemma writesOnce_commit {s : Store} {field : String} {ms : List Message}
    (hms : DistinctTexts (s.messages field) → DistinctTexts ms) :
    s.WritesOnce (s.commit field ms) :=
  ⟨_, Writes.refl.commit field hms, List.nodup_singleton field⟩

/-! ### Operations -/

/-- Registering fields publishes nothing. -/
lemma writes_registerAll (s : Store) (fields : List String) :
    s.Writes [] (s.registerAll fields) := by
  have key : ∀ t, s.Writes [] t → s.Writes [] (t.registerAll fields) := by
    induction fields with
    | nil => exact fun t h => h
    | cons f rest ih => exact fun t h => ih (t.register f) (h.register f)
  exact key s .refl

/-- Every list that is committed is published. -/
lemma writes_commits (s : Store) {results : List (String × List Message)}
    (hms : ∀ e ∈ results, DistinctTexts e.2) :
    s.Writes (results.map fun e => ⟨e.1, e.2⟩) (results.foldl (fun s e => s.commit e.1 e.2) s) := by
  induction results generalizing s with
  | nil => exact .refl
  | cons e rest ih =>
      have hfirst : s.Writes [⟨e.1, e.2⟩] (s.commit e.1 e.2) :=
        Writes.refl.commit e.1 fun _ => hms e List.mem_cons_self
      exact hfirst.trans (ih (s.commit e.1 e.2) fun e' he' => hms e' (List.mem_cons_of_mem e he'))

/-- A registered field that loses its messages publishes that. -/
lemma writes_clearField (s : Store) (field : String) :
    s.Writes (if s.isRegistered field then [⟨field, []⟩] else []) (s.clearField field) := by
  rw [clearField]
  split
  · exact Writes.refl.commit field fun _ => distinctTexts_nil
  · exact .refl

/-- A field that loses its messages publishes that once at most. -/
lemma writesOnce_clearField (s : Store) (field : String) : s.WritesOnce (s.clearField field) := by
  rw [clearField]
  split
  · exact writesOnce_commit fun _ => distinctTexts_nil
  · exact .refl s

/-- A field that loses its messages stays registered, and so do all others. -/
lemma names_clearField (s : Store) (field : String) : (s.clearField field).names = s.names := by
  rw [clearField]
  split
  · rename_i h
    rw [names_commit, enlist_of_mem (isRegistered_iff.mp h)]
  · rfl

/-- Registered fields that lose their messages one after the other publish that in turn. -/
lemma writes_clears (s : Store) {fields : List String} (hreg : ∀ f ∈ fields, f ∈ s.names) :
    s.Writes (fields.map fun f => ⟨f, []⟩) (fields.foldl clearField s) := by
  induction fields generalizing s with
  | nil => exact .refl
  | cons f rest ih =>
      have hfirst := writes_clearField s f
      rw [if_pos (isRegistered_iff.mpr (hreg f List.mem_cons_self))] at hfirst
      refine hfirst.trans (ih (s.clearField f) fun g hg => ?_)
      rw [names_clearField]
      exact hreg g (List.mem_cons_of_mem f hg)

/-- Removing all messages publishes one empty list for each registered field. -/
lemma writes_clear (s : Store) : s.Writes (s.names.map fun f => ⟨f, []⟩) s.clear :=
  writes_clears s fun _ hf => hf

lemma mem_names_of_mem_stale {s : Store} {fields : List String} {field : String}
    (h : field ∈ s.stale fields) : field ∈ s.names := by
  obtain ⟨e, he, rfl⟩ := List.mem_map.mp h
  exact List.mem_map_of_mem (List.mem_filter.mp he).1

/-- New results publish an empty list for each field that they leave behind, and then each of
themselves. -/
lemma writes_commitAll (s : Store) {results : List (String × List Message)}
    (hms : ∀ e ∈ results, DistinctTexts e.2) :
    s.Writes (((s.stale (results.map Prod.fst)).map fun f => ⟨f, []⟩)
      ++ results.map fun e => ⟨e.1, e.2⟩) (s.commitAll results) :=
  (writes_clears s fun _ => mem_names_of_mem_stale).trans (writes_commits _ hms)

/-- The fields that new results leave behind are different ones, and have no results. -/
lemma nodup_stale_append {s : Store} (hs : s.names.Nodup) {fields : List String}
    (hnd : fields.Nodup) : (s.stale fields ++ fields).Nodup := by
  rw [stale_eq_filter hs]
  refine List.Nodup.append (hs.filter _) hnd fun f hstale hf => ?_
  have hcontains := (List.mem_filter.mp hstale).2
  simp [hf] at hcontains

/-- What `t` has in addition to `s` is one event of the field if the messages of the field differ,
and nothing otherwise. -/
def FiresOnChange (field : String) (s t : Store) : Prop :=
  (t.messages field = s.messages field → t.published = s.published) ∧
    (t.messages field ≠ s.messages field →
      t.published = s.published ++ [⟨field, t.messages field⟩])

lemma FiresOnChange.refl (field : String) (s : Store) : FiresOnChange field s s :=
  ⟨fun _ => rfl, fun h => absurd rfl h⟩

/-- A commit of something new publishes it. -/
lemma firesOnChange_commit {s : Store} {field : String} {ms : List Message}
    (hne : ms ≠ s.messages field) : FiresOnChange field s (s.commit field ms) := by
  rw [FiresOnChange, messages_commit_self, published_commit]
  exact ⟨fun h => absurd h hne, fun _ => rfl⟩

/-- A message is added to any field that has a name. -/
lemma exists_add (s : Store) (m : Message) {field : String} (hne : field.isEmpty = false) :
    ∃ t, s.add m field = .ok t := by
  rw [add, hne]
  by_cases htext : hasText (s.messages field) m.text = true
  · exact ⟨s, if_pos htext⟩
  · exact ⟨_, if_neg htext⟩

/-- A message that is added stands behind those that there are, unless its text is there. -/
lemma messages_of_add {s t : Store} {m : Message} {field : String} (h : s.add m field = .ok t) :
    t.messages field = insertDistinct (s.messages field) m := by
  rw [add] at h
  rw [insertDistinct]
  split at h
  · cases h
  · split at h <;> cases h
    · rw [if_pos ‹_›]
    · rw [if_neg ‹_›, messages_commit_self]

/-- To add a message to a field leaves the messages of the other fields. -/
lemma messages_of_add_of_ne {s t : Store} {m : Message} {field f : String}
    (h : s.add m field = .ok t) (hne : f ≠ field) : t.messages f = s.messages f := by
  rw [add] at h
  split at h
  · cases h
  · split at h <;> cases h
    · rfl
    · exact messages_commit_of_ne s hne _

/-- A field that has a text is registered. -/
lemma mem_names_of_hasText {s : Store} {field text : String}
    (h : hasText (s.messages field) text = true) : field ∈ s.names := by
  by_contra hnot
  rw [messages_of_not_mem hnot] at h
  cases h

/-- A message is added to a field that is registered, if need be. -/
lemma names_add {s t : Store} {m : Message} {field : String} (h : s.add m field = .ok t) :
    t.names = (s.register field).names := by
  rw [names_register]
  rw [add] at h
  split at h
  · cases h
  · split at h <;> cases h
    · rw [enlist_of_mem (mem_names_of_hasText ‹_›)]
    · exact names_commit s field _

/-- A message is removed from a field that is registered. -/
lemma names_remove (s : Store) (m : Message) (field : String) :
    (s.remove m field).2.names = s.names := by
  rw [remove]
  split
  · rw [names_commit, enlist_of_mem (mem_names_of_hasText ‹_›)]
  · rfl

/-- A message that is added is published with those before it. -/
lemma writes_add {s t : Store} {m : Message} {field : String} (h : s.add m field = .ok t) :
    FiresOnChange field s t ∧ s.WritesOnce t := by
  rw [add] at h
  split at h
  · cases h
  · split at h
    · cases h
      exact ⟨.refl field s, .refl s⟩
    · rename_i hm
      cases h
      refine ⟨firesOnChange_commit (by simp), writesOnce_commit fun hs => ?_⟩
      exact hs.append_singleton (by simpa using hm)

/-- A message that is removed is published by those that are left. -/
lemma writes_remove (s : Store) (m : Message) (field : String) :
    FiresOnChange field s (s.remove m field).2 ∧ s.WritesOnce (s.remove m field).2 := by
  rw [remove]
  split
  · rename_i hm
    refine ⟨firesOnChange_commit fun heq => ?_, writesOnce_commit fun hs => hs.eraseP _⟩
    obtain ⟨n, hn, htext⟩ := List.any_eq_true.mp hm
    have hlen : ((s.messages field).eraseP fun n => n.text == m.text).length
        = (s.messages field).length - 1 := List.length_eraseP_of_mem hn htext
    rw [heq] at hlen
    have hpos := List.length_pos_of_mem hn
    omega
  · exact ⟨.refl field s, .refl s⟩

end Store

end FieldRules
