/-
Accounts of what a receiver of a channel is told.

* `Received.Covers`: what the receiver is told stands for some of the values that
  were sent: a value for itself, a loss for as many values as it counts;
* `Received.values`, `Received.lost`: the values that the receiver got, and how many
  it was told that it lost;
* `Received.Accounts`: all that it was told covers the values that were sent, one
  after the other, up to those that it has not been told about;
* `Accounts.append`: accounts follow one another;
* `Accounts.sublist`, `Accounts.total`: values come in the order in which they were
  sent and none of them twice, and nothing is left out of the count;
* `Accounts.eq_values_append`, `Accounts.values_of_no_loss`: what comes without a loss
  comes without a gap.
-/
import FieldRules.Channel
import Mathlib.Data.List.Forall2

namespace FieldRules

namespace Received

variable {α : Type} {got got' : List (Received α)} {sent more pending pending' : List α}

/-- How many values a reading stands for. -/
def span : Received α → Nat
  | .value _ => 1
  | .lagged count => count
  | .empty | .closed => 0

/-- A reading stands for these values: a value for itself, a loss for so many that were lost. -/
def Covers : Received α → List α → Prop
  | .value a, part => part = [a]
  | .lagged count, part => part.length = count
  | .empty, part => part = []
  | .closed, part => part = []

/-- The value of a reading, if it is one. -/
def value? : Received α → Option α
  | .value a => some a
  | _ => none

/-- How many values a reading tells to be lost. -/
def lag : Received α → Nat
  | .lagged count => count
  | _ => 0

/-- The values among what a receiver was told. -/
def values (got : List (Received α)) : List α :=
  got.filterMap value?

/-- How many values a receiver was told that it lost. -/
def lost : List (Received α) → Nat
  | [] => 0
  | g :: got => g.lag + lost got

lemma span_eq (g : Received α) : g.span = g.value?.toList.length + g.lag := by
  cases g with
  | lagged count => exact (Nat.zero_add count).symm
  | _ => rfl

lemma values_cons (g : Received α) (got : List (Received α)) :
    values (g :: got) = g.value?.toList ++ values got := by
  cases g <;> rfl

lemma values_append (got got' : List (Received α)) :
    values (got ++ got') = values got ++ values got' :=
  List.filterMap_append

namespace Covers

variable {g : Received α} {part : List α}

/-- A value that is read is among those that the reading stands for. -/
lemma sublist (h : g.Covers part) : g.value?.toList.Sublist part := by
  cases g with
  | value a =>
      obtain rfl : part = [a] := h
      exact List.Sublist.refl [a]
  | lagged => exact List.nil_sublist part
  | empty => exact List.nil_sublist part
  | closed => exact List.nil_sublist part

lemma length_eq (h : g.Covers part) : part.length = g.span := by
  cases g with
  | lagged count => exact h
  | _ => exact congrArg List.length h

/-- A reading that is no loss stands for its value only. -/
lemma eq_of_not_lagged (h : g.Covers part) (hg : ∀ count, g ≠ .lagged count) :
    part = g.value?.toList := by
  cases g with
  | value a => exact h
  | lagged count => exact absurd rfl (hg count)
  | empty => exact h
  | closed => exact h

end Covers

/-- Without a loss, what a receiver was told stands for the values that it got. -/
lemma flatten_eq_values {parts : List (List α)} (h : List.Forall₂ Covers got parts)
    (hloss : ∀ count, .lagged count ∉ got) : parts.flatten = values got := by
  induction h with
  | nil => rfl
  | cons hg _ ih =>
      rw [values_cons, List.flatten_cons,
        hg.eq_of_not_lagged fun count heq => hloss count (heq ▸ List.mem_cons_self),
        ih fun count hmem => hloss count (List.mem_cons_of_mem _ hmem)]

/-- All that a receiver was told stands for the values that were sent, piece by piece and in order,
up to those that are pending. -/
def Accounts (got : List (Received α)) (sent pending : List α) : Prop :=
  ∃ parts, List.Forall₂ Covers got parts ∧ sent = parts.flatten ++ pending

namespace Accounts

/-- A receiver that was told nothing has everything pending. -/
lemma nil (pending : List α) : Accounts [] pending pending :=
  ⟨[], .nil, rfl⟩

/-- Accounts of one reading. -/
lemma singleton {g : Received α} {part : List α} (h : g.Covers part) (pending : List α) :
    Accounts [g] (part ++ pending) pending := by
  refine ⟨[part], .cons h .nil, ?_⟩
  rw [List.flatten_singleton]

/-- A second account begins with what was pending after the first one. -/
lemma append (h : Accounts got sent pending) (h' : Accounts got' (pending ++ more) pending') :
    Accounts (got ++ got') (sent ++ more) pending' := by
  obtain ⟨parts, hparts, rfl⟩ := h
  obtain ⟨parts', hparts', hmore⟩ := h'
  refine ⟨parts ++ parts', List.rel_append hparts hparts', ?_⟩
  rw [List.append_assoc, hmore, List.flatten_append, List.append_assoc]

/-- The values that a receiver got were sent in this order, each of them once for every time that it
was received. -/
lemma sublist (h : Accounts got sent pending) : (values got).Sublist sent := by
  obtain ⟨parts, hparts, rfl⟩ := h
  refine List.Sublist.trans ?_ (List.sublist_append_left _ _)
  induction hparts with
  | nil => exact List.Sublist.refl []
  | cons hg _ ih =>
      rw [values_cons, List.flatten_cons]
      exact hg.sublist.append ih

/-- Every value that was sent was received, is told to be lost or is pending. -/
lemma total (h : Accounts got sent pending) :
    (values got).length + lost got + pending.length = sent.length := by
  obtain ⟨parts, hparts, rfl⟩ := h
  rw [List.length_append, Nat.add_right_cancel_iff]
  induction hparts with
  | nil => rfl
  | @cons g part got parts hg _ ih =>
      rw [values_cons, List.flatten_cons, List.length_append, List.length_append, ← ih,
        hg.length_eq, span_eq, lost]
      exact Nat.add_add_add_comm _ _ _ _

/-- Without a loss, a receiver got all that is not pending. -/
lemma eq_values_append (h : Accounts got sent pending) (hloss : ∀ count, .lagged count ∉ got) :
    sent = values got ++ pending := by
  obtain ⟨parts, hparts, rfl⟩ := h
  rw [flatten_eq_values hparts hloss]

/-- What was told at last, without a loss, are the last values before the pending ones. -/
lemma values_of_no_loss (h : Accounts (got ++ got') sent pending)
    (hloss : ∀ count, .lagged count ∉ got') :
    ∃ first, sent = first ++ values got' ++ pending := by
  obtain ⟨parts, hparts, rfl⟩ := h
  have hrest := List.forall₂_drop got.length hparts
  rw [List.drop_left] at hrest
  refine ⟨(parts.take got.length).flatten, ?_⟩
  rw [← flatten_eq_values hrest hloss, ← List.flatten_append, List.take_append_drop]

end Accounts

end Received

end FieldRules
