/-
The fields of a store over whole histories.

* `Reachable.after`: calls lead from one reachable store to another;
* `Reachable.distinctTexts_of_mem`: no field of a reachable store has a text
  twice, walking through all of them;
* `fields_stay`: fields are never dropped, doubled or moved, and their texts are
  never doubled.
-/
import FieldRules.Proofs.Site.Reachable

namespace FieldRules

namespace Store

variable {s : Store}

lemma Reachable.after (h : s.Reachable) (uses : List Use) : (s.after uses).Reachable := by
  induction uses generalizing s with
  | nil => exact h
  | cons u rest ih => exact ih (h.used u)

/-- What stands beside the name of a field has no text twice. -/
lemma Reachable.distinctTexts_of_mem (h : s.Reachable) {e : String × List Message}
    (he : e ∈ s.fields) : DistinctTexts e.2 := by
  rw [← messages_eq_of_mem h.nodup_names he]
  exact h.distinctTexts e.1

/-- **No field is lost**: whatever calls a store takes part in, whether they succeed or fail, its
fields are different ones, none of them has two messages with one text, and the next call, whichever
it is, leaves the fields where they are and registers new ones behind them. -/
theorem fields_stay (h : s.Reachable) (uses : List Use) :
    (s.after uses).names.Nodup ∧
      (∀ e ∈ (s.after uses).fields, DistinctTexts e.2) ∧
      s.names <+: (s.after uses).names ∧
      ∀ u : Use, (s.after uses).names <+: (u.apply (s.after uses)).names := by
  have hafter := h.after uses
  obtain ⟨_, hwrites⟩ := s.writes_after uses
  refine ⟨hafter.nodup_names, fun e he => hafter.distinctTexts_of_mem he, hwrites.names_prefix,
    fun u => ?_⟩
  obtain ⟨_, hnext⟩ := u.writes (s.after uses)
  exact hnext.names_prefix

/-- An order that is validated in full keeps its fields when a message is added to a new one. -/
theorem fields_of_order_stay :
    (order sevenUnits).subject.store.Reachable ∧
      ((order sevenUnits).subject.store.after
          [.own orders (order sevenUnits) .validateAll]).names = ["Note", "Name", "Price"] ∧
      ["Note", "Name", "Price"] <+:
        ((Use.own orders (order sevenUnits) (.add ⟨.warning, "late"⟩ "Date")).apply
          ((order sevenUnits).subject.store.after
            [.own orders (order sevenUnits) .validateAll])).names := by
  have hreach := (reachable_order sevenUnits).store
  obtain ⟨_, _, _, hnext⟩ := fields_stay hreach [.own orders (order sevenUnits) .validateAll]
  exact ⟨hreach, rfl, hnext _⟩

end Store

end FieldRules
