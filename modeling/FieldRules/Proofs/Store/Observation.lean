/-
What somebody knows who only hears events.

* `Use.Declared`: the calls on models with declarations;
* `Use.announces`: what such a call publishes are different fields, each with
  what it has right after the call;
* `events_tell_messages`: over any calls, the last event of a field tells its
  messages, every call announces what it leaves, and adding or removing a
  message publishes an event if and only if the list of the field changes.
-/
import FieldRules.Proofs.Site.Reachable

namespace FieldRules

/-- The model of the call has declarations, and the books of its site come about by use. -/
def Use.Declared : Use → Prop
  | own m site _ | proxy m site _ => m.rules.Declared ∧ site.registry.Reachable

/-- A call publishes different fields, each with what it has right after the call, and changes no
other field. -/
lemma Use.announces {s : Store} (hs : s.names.Nodup) {u : Use} (hu : u.Declared) :
    ∃ es, s.Announces es (u.apply s) := by
  cases u with
  | own m site a =>
      obtain ⟨hm, hregistry⟩ := hu
      -- a book is compiled, so that none of its fields has two entries
      have hbooks : ∀ b, (site.registry.getOrBuild m).1 = .ok b → b.names.Nodup := by
        intro b hb
        exact (hregistry.compiled_of_getOrBuild hm (Prod.ext hb rfl)).nodup_names
      obtain ⟨es, hes, hnd⟩ := (a.moves_apply m (site.withStore fun _ => s)).writes
      exact ⟨es, hes.announces (hnd hs hbooks)⟩
  | proxy m site a =>
      obtain ⟨es, hes, hnd⟩ := writesOnce_proxy m site a s
      exact ⟨es, hes.announces hnd⟩

namespace Store

/-- Adding a message publishes an event if and only if the list of the field changes. -/
lemma firesOnChange_own_add (s : Store) (m : Model) (site : Site) (msg : Message)
    (field : String) : FiresOnChange field s ((Use.own m site (.add msg field)).apply s) := by
  rw [Use.apply, Action.apply]
  split
  · exact .refl field s
  · rename_i t hadd
    exact (writes_add hadd).1

/-- Removing a message publishes an event if and only if the list of the field changes. -/
lemma firesOnChange_own_remove (s : Store) (m : Model) (site : Site) (msg : Message)
    (field : String) : FiresOnChange field s ((Use.own m site (.remove msg field)).apply s) :=
  (writes_remove s msg field).1

/-- **No silent change**: whoever hears the events that a store publishes over any calls, whether
they succeed or fail, knows its messages. A field has what its last event carries, and what it had
before if there was none. The events of a call stand behind those of the calls before it; they are
of different fields, each carries what its field has right after the call, and no other field is
changed by the call. A call that adds or removes a message publishes one event if that changed the
list, and none otherwise. -/
theorem events_tell_messages {s : Store} (hs : s.Reachable) (uses : List Use)
    (huses : ∀ u ∈ uses, u.Declared) :
    ∃ fired : List Event,
      (s.after uses).published = s.published ++ fired ∧
      (∀ field,
        (s.after uses).messages field = (lastPayload field fired).getD (s.messages field)) ∧
      (∀ front u rest, uses = front ++ u :: rest →
        ∃ before es behind, fired = before ++ es ++ behind ∧
          (s.after front).published = s.published ++ before ∧
          (s.after front).Announces es (s.after (front ++ [u]))) ∧
      ∀ front m site msg field rest,
        (uses = front ++ .own m site (.add msg field) :: rest →
          FiresOnChange field (s.after front)
            (s.after (front ++ [.own m site (.add msg field)]))) ∧
        (uses = front ++ .own m site (.remove msg field) :: rest →
          FiresOnChange field (s.after front)
            (s.after (front ++ [.own m site (.remove msg field)]))) := by
  obtain ⟨fired, hfired⟩ := s.writes_after uses
  have hstep : ∀ front u, s.after (front ++ [u]) = u.apply (s.after front) :=
    fun front u => s.after_append front [u]
  refine ⟨fired, hfired.published, hfired.messages, ?_, ?_⟩
  · rintro front u rest rfl
    obtain ⟨before, hbefore⟩ := s.writes_after front
    have hu : u.Declared := huses u (List.mem_append_right front List.mem_cons_self)
    obtain ⟨es, hes⟩ := Use.announces (hbefore.nodup_names hs.nodup_names) hu
    obtain ⟨behind, hbehind⟩ := (u.apply (s.after front)).writes_after rest
    refine ⟨before, es, behind, ?_, hbefore.published, hstep front u ▸ hes⟩
    have hall : s.after (front ++ u :: rest) = (u.apply (s.after front)).after rest :=
      s.after_append front (u :: rest)
    have hpublished : s.published ++ fired = s.published ++ (before ++ es ++ behind) := by
      rw [← hfired.published, hall, hbehind.published, hes.published, hbefore.published]
      simp only [List.append_assoc]
    exact List.append_cancel_left hpublished
  · intro front m site msg field rest
    rw [hstep, hstep]
    exact ⟨fun _ => firesOnChange_own_add _ m site msg field,
      fun _ => firesOnChange_own_remove _ m site msg field⟩

/-- An order is validated in full, and then its messages are removed. -/
def validatedAndCleared : List Use :=
  [.own orders (order sevenUnits) .validateAll, .own orders (order sevenUnits) .clear]

/-- The validation announces that the note is gone and what its name and its price have; the price
has nothing any more when its last event says so. -/
theorem events_of_order_tell_messages :
    (order sevenUnits).subject.store.Reachable ∧ (∀ u ∈ validatedAndCleared, u.Declared) ∧
      ∃ fired before es behind, fired = before ++ es ++ behind ∧
        (order sevenUnits).subject.store.Announces es
          ((order sevenUnits).subject.store.after
            [.own orders (order sevenUnits) .validateAll]) ∧
        es = [⟨"Note", []⟩, ⟨"Name", [⟨.error, "no name"⟩]⟩,
          ⟨"Price", [⟨.warning, "too dear"⟩]⟩] ∧
        lastPayload "Price" fired = some [] ∧
        ((order sevenUnits).subject.store.after validatedAndCleared).messages "Price" = [] := by
  have hreach := (reachable_order sevenUnits).store
  have huses : ∀ u ∈ validatedAndCleared, u.Declared := by
    intro u hu
    simp only [validatedAndCleared, List.mem_cons, List.not_mem_nil, or_false] at hu
    rcases hu with rfl | rfl <;> exact ⟨declared_orders, .empty⟩
  obtain ⟨fired, hpublished, _, hcalls, _⟩ :=
    events_tell_messages hreach validatedAndCleared huses
  obtain ⟨before, es, behind, hsplit, _, hes⟩ :=
    hcalls [] (.own orders (order sevenUnits) .validateAll) _ rfl
  -- the order had published one event before, that of its note
  have hfired : _ = fired := congrArg (List.drop 1) hpublished
  have hfirst : _ = es := congrArg (List.drop 1) hes.published
  refine ⟨hreach, huses, fired, before, es, behind, hsplit, hes, hfirst.symm, ?_, rfl⟩
  rw [← hfired]
  rfl

end Store

end FieldRules
