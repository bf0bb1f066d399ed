/-
Stores over whole histories.

* `Use`: a call in which a store takes part, be it that of the object or another
  one that receives messages in its place;
* `Store.after`: the store after calls, and `after_append`: after some and then
  others;
* `Store.Reachable`: the stores that begin without fields or with the fields of
  a type and are used from then on;
* `Use.writes`, `writes_after`: calls change a store by writes alone, and
  `Use.writesOnce_proxy`: no field is published twice by one in which the store
  takes part in place of another;
* `Reachable.nodup_names`, `Reachable.distinctTexts`: no reachable store has a
  field twice, or a text twice in one field.
-/
import FieldRules.Proofs.Site.Writes

namespace FieldRules

/-- A call in which a store takes part. All else about the site of the call is as given. -/
inductive Use where
  /-- The call is on the object whose messages the store holds. -/
  | own (m : Model) (site : Site) (a : Action)
  /-- The call is on another object, and the store receives messages in place of its own. -/
  | proxy (m : Model) (site : Site) (a : Action)

namespace Use

/-- The store after the call. -/
def apply : Use → Store → Store
  | own m site a, s => (a.apply m (site.withStore fun _ => s)).2.subject.store
  | proxy m site a, s => (a.apply m { site with proxy := some s }).2.proxy.getD s

/-- A call in which the store takes part in place of that of the object publishes no field twice. -/
lemma writesOnce_proxy (m : Model) (site : Site) (a : Action) (s : Store) :
    s.WritesOnce ((proxy m site a).apply s) := by
  have hrel := (a.moves_apply m { site with proxy := some s }).proxyWrites
  rw [apply]
  generalize (a.apply m { site with proxy := some s }).2.proxy = other at hrel
  cases hrel with
  | some h => exact h

/-- A call changes the store by writes. -/
lemma writes (u : Use) (s : Store) : ∃ es, s.Writes es (u.apply s) := by
  cases u with
  | own m site a =>
      obtain ⟨es, hes, _⟩ := (a.moves_apply m (site.withStore fun _ => s)).writes
      exact ⟨es, hes⟩
  | proxy m site a =>
      obtain ⟨es, hes, _⟩ := writesOnce_proxy m site a s
      exact ⟨es, hes⟩

end Use

namespace Store

/-- The store after calls, one after the other. -/
def after (s : Store) (uses : List Use) : Store :=
  uses.foldl (fun s u => u.apply s) s

lemma after_append (s : Store) (uses more : List Use) :
    s.after (uses ++ more) = (s.after uses).after more :=
  List.foldl_append

/-- The stores there are: they begin without fields, or with those of a type, and take part in calls
from then on. Somebody may collect what they have published at any time. -/
inductive Reachable : Store → Prop
  | empty : Reachable .empty
  | forFields (fields : List String) : Reachable (Store.empty.registerAll fields)
  | used {s : Store} (u : Use) (h : Reachable s) : Reachable (u.apply s)
  | collected {s : Store} (h : Reachable s) : Reachable s.collect.2

/-- Calls change the store by writes. -/
lemma writes_after (s : Store) (uses : List Use) : ∃ es, s.Writes es (s.after uses) := by
  induction uses generalizing s with
  | nil => exact ⟨[], .refl⟩
  | cons u rest ih =>
      obtain ⟨es, hes⟩ := u.writes s
      obtain ⟨es', hes'⟩ := ih (u.apply s)
      exact ⟨es ++ es', hes.trans hes'⟩

/-- A store that comes about by use has no field registered twice. -/
lemma Reachable.nodup_names {s : Store} (h : s.Reachable) : s.names.Nodup := by
  induction h with
  | empty => exact List.nodup_nil
  | forFields fields => exact (writes_registerAll .empty fields).nodup_names List.nodup_nil
  | @used s u _ ih =>
      obtain ⟨es, hes⟩ := u.writes s
      exact hes.nodup_names ih
  | collected _ ih => exact ih

/-- A store that comes about by use has no field with a text twice. -/
lemma Reachable.distinctTexts {s : Store} (h : s.Reachable) (field : String) :
    DistinctTexts (s.messages field) := by
  have hempty : ∀ f, DistinctTexts (Store.empty.messages f) := fun _ => distinctTexts_nil
  induction h generalizing field with
  | empty => exact hempty field
  | forFields fields => exact (writes_registerAll .empty fields).distinctTexts hempty field
  | @used s u _ ih =>
      obtain ⟨es, hes⟩ := u.writes s
      exact hes.distinctTexts ih field
  | collected _ ih => exact ih field

end Store

end FieldRules
