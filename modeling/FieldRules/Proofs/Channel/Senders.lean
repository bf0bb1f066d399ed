/-
The senders of a channel, whatever is asked of the channel.

* `Channel.clones`: how many senders were added over requests;
* `Request.closes`: the requests that remove a sender;
* `senders_handle`, `senders_after`: after one request, and so after any series of
  requests, there are as many senders as there were, with those that were added and
  without those that were removed;
* `handle_clone_eq_done_iff`: a sender is added if and only if one is left.
-/
import FieldRules.Proofs.Channel.Pending

namespace FieldRules

namespace Channel

variable {α : Type}

/-- A sender was added, if this was asked and done. -/
def cloned : Request α × Answer α → Bool
  | (.clone, .done) => true
  | _ => false

/-- How many senders were added over requests. -/
def clones (c : Channel α) (rs : List (Request α)) : Nat :=
  (rs.zip (c.handleAll rs)).countP cloned

/-- The request removes a sender, if there is one. -/
def Request.closes : Request α → Bool
  | .close => true
  | _ => false

lemma clones_cons (c : Channel α) (r : Request α) (rs : List (Request α)) :
    c.clones (r :: rs)
      = (c.handle r).2.clones rs + if cloned (r, (c.handle r).1) then 1 else 0 := by
  have hall : c.handleAll (r :: rs) = (c.handle r).1 :: (c.handle r).2.handleAll rs := rfl
  rw [clones, hall, List.zip_cons_cons, List.countP_cons]
  rfl

/-- **One request** adds the sender that it asks for if that is done, and removes one if it is to do
so and there is one. -/
lemma senders_handle (c : Channel α) (r : Request α) :
    (c.handle r).2.senders
      = c.senders + (if cloned (r, (c.handle r).1) then 1 else 0) - if r.closes then 1 else 0 := by
  by_cases hmissing : (needsSender r && c.senders == 0) = true
  · rw [handle_of_missing hmissing]
    cases r with
    | close => cases hmissing
    | _ => rfl
  · cases r with
    | send a =>
        rw [handle, if_neg hmissing]
        exact senders_send c a
    | receive other =>
        rw [handle_receive, receive]
        split <;> rfl
    | _ =>
        rw [handle, if_neg hmissing]
        rfl

/-- A request for one more sender is done if and only if there is one. -/
lemma handle_clone_eq_done_iff (c : Channel α) :
    (c.handle .clone).1 = .done ↔ c.senders ≠ 0 := by
  by_cases h : c.senders = 0
  · rw [handle_of_missing (by rw [h]; rfl)]
    simp [h]
  · rw [handle, if_neg (by simpa [needsSender] using h)]
    simp [h]

/-- Where there is no sender, none is added any more. -/
lemma clones_of_no_sender {c : Channel α} (h : c.senders = 0) (rs : List (Request α)) :
    c.clones rs = 0 := by
  induction rs generalizing c with
  | nil => rfl
  | cons r rs ih =>
      have hcloned : cloned (r, (c.handle r).1) = false := by
        cases r with
        | clone => rw [handle_of_missing (by rw [h]; rfl)]; rfl
        | _ => rfl
      have hnext : (c.handle r).2.senders = 0 := by
        rw [senders_handle, hcloned, h]
        exact Nat.zero_sub _
      rw [clones_cons, ih hnext, hcloned]
      rfl

/-- **Any series of requests** leaves the senders that there were and those that were added, without
those that were removed. -/
lemma senders_after (c : Channel α) (rs : List (Request α)) :
    (c.after rs).senders = c.senders + c.clones rs - rs.countP Request.closes := by
  induction rs generalizing c with
  | nil => rfl
  | cons r rs ih =>
      rw [after_cons, ih, clones_cons, List.countP_cons, senders_handle]
      by_cases hnone : c.senders = 0
      · -- the last sender is gone, and whoever asks for one more gets none
        have hfirst := c.clones_of_no_sender hnone [r]
        have hrest := c.clones_of_no_sender hnone (r :: rs)
        rw [clones_cons] at hfirst hrest
        omega
      · split <;> split <;> omega

end Channel

end FieldRules
