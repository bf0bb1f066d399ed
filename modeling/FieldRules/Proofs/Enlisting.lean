/-
Lists of names that grow at the end.

* `enlist`: a list with one more name at its end, unless the name is there
  already;
* `mem_enlist`, `nodup_enlist`, `prefix_enlist`: what such a list has, and what
  it keeps;
* `enlist_cons_self`, `enlist_cons_of_ne`: enlisting by a walk through the list;
* `eraseDups_append_singleton`: names enlisted one after the other.
-/
import Mathlib.Data.List.Induction
import Mathlib.Data.List.Nodup
import Mathlib.Tactic.Lemma

namespace FieldRules

/-- The list with one more name at its end, unless the name is there already. -/
def enlist (names : List String) (name : String) : List String :=
  if name ∈ names then names else names ++ [name]

variable {names : List String} {name other : String}

lemma enlist_of_mem (h : name ∈ names) : enlist names name = names := if_pos h

lemma enlist_of_not_mem (h : name ∉ names) : enlist names name = names ++ [name] := if_neg h

lemma mem_enlist : other ∈ enlist names name ↔ other ∈ names ∨ other = name := by
  by_cases h : name ∈ names
  · rw [enlist_of_mem h]
    exact ⟨Or.inl, fun hor => hor.elim id fun heq => heq ▸ h⟩
  · rw [enlist_of_not_mem h, List.mem_append, List.mem_singleton]

/-- To enlist a name drops or moves no other. -/
lemma prefix_enlist (names : List String) (name : String) : names <+: enlist names name := by
  by_cases h : name ∈ names
  · exact ⟨[], by rw [List.append_nil, enlist_of_mem h]⟩
  · exact ⟨[name], by rw [enlist_of_not_mem h]⟩

/-- No name is enlisted a second time. -/
lemma nodup_enlist (h : names.Nodup) (name : String) : (enlist names name).Nodup := by
  by_cases hmem : name ∈ names
  · rwa [enlist_of_mem hmem]
  · rw [enlist_of_not_mem hmem, ← List.concat_eq_append]
    exact h.concat hmem

lemma enlist_cons_self (name : String) (names : List String) :
    enlist (name :: names) name = name :: names :=
  enlist_of_mem List.mem_cons_self

lemma enlist_cons_of_ne (h : other ≠ name) (names : List String) :
    enlist (other :: names) name = other :: enlist names name := by
  by_cases hmem : name ∈ names
  · rw [enlist_of_mem hmem, enlist_of_mem (List.mem_cons_of_mem other hmem)]
  · have hcons : name ∉ other :: names := fun hin =>
      (List.mem_cons.mp hin).elim (fun heq => h heq.symm) hmem
    rw [enlist_of_not_mem hmem, enlist_of_not_mem hcons, List.cons_append]

/-- Names that are enlisted one after the other are listed once, in the order in which they first
come up. -/
lemma eraseDups_append_singleton (names : List String) (name : String) :
    (names ++ [name]).eraseDups = enlist names.eraseDups name := by
  rw [List.eraseDups_append]
  by_cases h : name ∈ names
  · rw [enlist_of_mem (List.mem_eraseDups.mpr h)]
    simp [List.removeAll, h]
  · rw [enlist_of_not_mem (mt List.mem_eraseDups.mp h)]
    simp [List.removeAll, h, List.eraseDups_cons]

lemma nodup_eraseDups (names : List String) : names.eraseDups.Nodup := by
  induction names using List.reverseRecOn with
  | nil => exact List.nodup_nil
  | append_singleton names name ih =>
      rw [eraseDups_append_singleton]
      exact nodup_enlist ih name

end FieldRules
