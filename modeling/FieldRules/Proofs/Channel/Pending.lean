/-
What a receiver of a channel has pending, whatever is asked of the channel.

* `isLeast_roundCapacity`: the capacity of a channel;
* `Channel.after`: the channel after requests; `Channel.sends` and `Channel.heard` are
  what was sent meanwhile, and what a receiver was told;
* `Channel.Holds`: the channel keeps the last values of its history;
* `Channel.Waits`: a receiver has these values pending, the last ones of the history;
* `Waits.receive`: reading tells the receiver about the first of them;
* `Waits.step`, `Waits.run`: any request, and so any series of requests, keeps account
  of what is sent, what the receiver is told and what it has pending, unless the
  receiver is removed or begins again;
* `Channel.ReadsNext`: what the receiver is told next.
-/
import FieldRules.Proofs.Channel.Accounts
import Mathlib.Order.Bounds.Basic

namespace FieldRules

namespace Channel

variable {α : Type} {c : Channel α} {name other : String} {all pending : List α} {next : Nat}

/-! ### Capacity -/

/-- The capacity is the least power of two that is large enough. -/
lemma isLeast_roundCapacity (n : Nat) :
    IsLeast {p | p.isPowerOfTwo ∧ max n 1 ≤ p} (roundCapacity n) := by
  -- the logarithm `e` of `2 * m - 1` is told by `2 ^ e < 2 * m ≤ 2 ^ (e + 1)`
  have hne : 2 * max n 1 - 1 ≠ 0 := by omega
  have hlow : Nat.pow 2 (2 * max n 1 - 1).log2 ≤ 2 * max n 1 - 1 := Nat.log2_self_le hne
  refine ⟨⟨⟨_, rfl⟩, ?_⟩, ?_⟩
  · have hhigh := (Nat.log2_lt hne).mp (Nat.lt_succ_self (2 * max n 1 - 1).log2)
    rw [Nat.pow_succ] at hhigh
    have hdef : roundCapacity n = 2 ^ (2 * max n 1 - 1).log2 := rfl
    omega
  · rintro _ ⟨⟨k, rfl⟩, hk⟩
    have hlt : (2 * max n 1 - 1).log2 < k + 1 := by
      rw [Nat.log2_lt hne, Nat.pow_succ]
      omega
    exact Nat.pow_le_pow_right Nat.two_pos (Nat.le_of_lt_succ hlt)

/-! ### Runs -/

/-- The channel after requests, one after the other. -/
def after (c : Channel α) (rs : List (Request α)) : Channel α :=
  rs.foldl (fun c r => (c.handle r).2) c

/-- The value that was sent, if this was asked and done. -/
def sentBy : Request α × Answer α → Option α
  | (.send a, .done) => some a
  | _ => none

/-- What the receiver of this name was told, if it asked. -/
def toldTo (name : String) : Request α × Answer α → Option (Received α)
  | (.receive other, .received got) => if other = name then some got else none
  | _ => none

/-- The values that were sent over requests. -/
def sends (c : Channel α) (rs : List (Request α)) : List α :=
  (rs.zip (c.handleAll rs)).filterMap sentBy

/-- What the receiver of this name was told over requests. -/
def heard (c : Channel α) (name : String) (rs : List (Request α)) : List (Received α) :=
  (rs.zip (c.handleAll rs)).filterMap (toldTo name)

/-- The request does not remove the receiver of this name and does not let it begin again. -/
def Request.keeps (name : String) : Request α → Bool
  | .subscribe other => other != name
  | .drop other => other != name
  | _ => true

lemma after_cons (c : Channel α) (r : Request α) (rs : List (Request α)) :
    c.after (r :: rs) = (c.handle r).2.after rs :=
  rfl

lemma after_append (c : Channel α) (rs rs' : List (Request α)) :
    c.after (rs ++ rs') = (c.after rs).after rs' :=
  List.foldl_append

lemma sends_cons (c : Channel α) (r : Request α) (rs : List (Request α)) :
    c.sends (r :: rs) = (sentBy (r, (c.handle r).1)).toList ++ (c.handle r).2.sends rs := by
  have hall : c.handleAll (r :: rs) = (c.handle r).1 :: (c.handle r).2.handleAll rs := rfl
  rw [sends, hall, List.zip_cons_cons, List.filterMap_cons]
  cases sentBy (r, (c.handle r).1) <;> rfl

lemma heard_cons (c : Channel α) (name : String) (r : Request α) (rs : List (Request α)) :
    c.heard name (r :: rs)
      = (toldTo name (r, (c.handle r).1)).toList ++ (c.handle r).2.heard name rs := by
  have hall : c.handleAll (r :: rs) = (c.handle r).1 :: (c.handle r).2.handleAll rs := rfl
  rw [heard, hall, List.zip_cons_cons, List.filterMap_cons]
  cases toldTo name (r, (c.handle r).1) <;> rfl

lemma sends_append (c : Channel α) (rs rs' : List (Request α)) :
    c.sends (rs ++ rs') = c.sends rs ++ (c.after rs).sends rs' := by
  induction rs generalizing c with
  | nil => rfl
  | cons r rs ih => rw [List.cons_append, sends_cons, ih, sends_cons, List.append_assoc, after_cons]

/-! ### Receivers -/

lemma name_of_receiver? {r : Receiver} (h : c.receiver? name = some r) : r.name = name := by
  simpa using List.find?_some h

lemma receiver?_drop_of_ne (hne : other ≠ name) :
    (c.drop other).receiver? name = c.receiver? name := by
  rw [receiver?, drop, List.find?_filter]
  congr 1
  funext r
  by_cases hr : r.name = name
  · simp [hr, Ne.symm hne]
  · simp [hr]

lemma receiver?_drop_self (c : Channel α) (name : String) :
    (c.drop name).receiver? name = none := by
  rw [receiver?, drop, List.find?_filter]
  simp

lemma receiver?_subscribe_self (c : Channel α) (name : String) :
    (c.subscribe name).receiver? name = some ⟨name, c.sent⟩ := by
  have hdrop := receiver?_drop_self c name
  rw [receiver?] at hdrop ⊢
  rw [subscribe, List.find?_append, hdrop]
  simp

lemma receiver?_subscribe_of_ne (hne : other ≠ name) :
    (c.subscribe other).receiver? name = c.receiver? name := by
  have hdrop := receiver?_drop_of_ne (c := c) hne
  rw [← hdrop, receiver?, receiver?, subscribe, List.find?_append]
  simp [hne]

lemma receiver?_move (c : Channel α) (other name : String) (next : Nat) :
    (c.move other next).receiver? name
      = (c.receiver? name).map fun r => if r.name = other then ⟨r.name, next⟩ else r := by
  rw [receiver?, move, List.find?_map]
  congr 2
  funext r
  by_cases hr : r.name = other
  · simp [hr]
  · simp [hr]

lemma receiver?_move_of_ne (hne : other ≠ name) (next : Nat) :
    (c.move other next).receiver? name = c.receiver? name := by
  rw [receiver?_move]
  cases h : c.receiver? name with
  | none => rfl
  | some r => rw [Option.map_some, if_neg (by rw [name_of_receiver? h]; exact Ne.symm hne)]

/-! ### History -/

lemma lastOf_append (n : Nat) (as bs : List α) :
    lastOf n (lastOf n as ++ bs) = lastOf n (as ++ bs) := by
  simp only [lastOf, List.drop_append, List.drop_drop, List.length_append, List.length_drop]
  congr 2 <;> omega

/-- The channel keeps the last of all values that it was ever sent. -/
structure Holds (c : Channel α) (all : List α) : Prop where
  /-- It has counted them. -/
  sent : c.sent = all.length
  /-- It keeps as many as it can. -/
  kept : c.kept = lastOf c.capacity all

namespace Holds

lemma create (n : Nat) : (create n : Channel α).Holds [] :=
  ⟨rfl, List.drop_nil.symm⟩

lemma send (h : c.Holds all) (hne : c.receivers ≠ []) (a : α) : (c.send a).Holds (all ++ [a]) := by
  rw [Channel.send, if_neg (by simpa using hne)]
  constructor
  · rw [List.length_append, ← h.sent]
    rfl
  · exact (congrArg (fun kept => lastOf c.capacity (kept ++ [a])) h.kept).trans
      (lastOf_append c.capacity all [a])

/-- What stands at a position that is still kept. -/
lemma getElem?_kept (h : c.Holds all) (hnext : next ≤ all.length)
    (hkept : (all.drop next).length ≤ c.capacity) :
    c.kept[next - c.oldest]? = (all.drop next).head? := by
  rw [List.length_drop] at hkept
  rw [oldest, h.sent, h.kept, lastOf, List.getElem?_drop, List.length_drop, List.head?_drop]
  congr 1
  omega

end Holds

/-! ### Reading -/

/-- What a receiver is told next that has these values pending. -/
def upNext (capacity senders : Nat) (pending : List α) : Received α :=
  if capacity < pending.length then .lagged (pending.length - capacity)
  else (pending.head?.map .value).getD (if senders = 0 then .closed else .empty)

/-- What a receiver is told next stands for the first of the values that it has pending. -/
lemma covers_upNext (capacity senders : Nat) (pending : List α) :
    (upNext capacity senders pending).Covers
      (pending.take (upNext capacity senders pending).span) := by
  rw [upNext]
  split
  · exact List.length_take_of_le (Nat.sub_le pending.length capacity)
  · cases pending with
    | cons a rest => rfl
    | nil =>
        rw [List.head?_nil, Option.map_none, Option.getD_none]
        split <;> rfl

/-- What a receiver is told next stands for no more values than it has pending. -/
lemma span_upNext_le (capacity senders : Nat) (pending : List α) :
    (upNext capacity senders pending).span ≤ pending.length := by
  rw [← (covers_upNext capacity senders pending).length_eq]
  exact List.length_take_le' _ pending

lemma readAt_eq (h : c.Holds all) (hnext : next ≤ all.length) :
    c.readAt next = (upNext c.capacity c.senders (all.drop next),
      next + (upNext c.capacity c.senders (all.drop next)).span) := by
  have hlen : (all.drop next).length = c.sent - next := by rw [List.length_drop, h.sent]
  rw [readAt, upNext, hlen]
  by_cases hlag : c.capacity < c.sent - next
  · rw [if_pos hlag, if_pos hlag, Nat.sub_right_comm]
    have hpos : c.sent - c.capacity = next + (c.sent - next - c.capacity) := by omega
    rw [hpos]
    rfl
  · rw [if_neg hlag, if_neg hlag, h.getElem?_kept hnext (by omega)]
    cases all.drop next with
    | cons a rest => rfl
    | nil =>
        rw [List.head?_nil, Option.map_none, Option.getD_none]
        dsimp only
        split <;> rfl

/-! ### Waiting -/

/-- There is a receiver of this name, and it has these values pending: the last ones of all that
were sent, from its position on. -/
def Waits (c : Channel α) (name : String) (pending : List α) : Prop :=
  ∃ all next, c.Holds all ∧ c.receiver? name = some ⟨name, next⟩ ∧ next ≤ all.length ∧
    pending = all.drop next

lemma Holds.subscribe (h : c.Holds all) (name : String) : (c.subscribe name).Waits name [] := by
  refine ⟨all, c.sent, ⟨h.sent, h.kept⟩, receiver?_subscribe_self c name, h.sent.le, ?_⟩
  rw [h.sent, List.drop_length]

namespace Waits

/-- Pending is what the history and the position of the receiver tell, and nothing else counts. -/
lemma of_same {c' : Channel α} (h : c.Waits name pending) (hcapacity : c'.capacity = c.capacity)
    (hkept : c'.kept = c.kept) (hsent : c'.sent = c.sent)
    (hreceiver : c'.receiver? name = c.receiver? name) : c'.Waits name pending := by
  obtain ⟨all, next, hall, hnext, hrest⟩ := h
  refine ⟨all, next, ⟨hsent.trans hall.sent, ?_⟩, hreceiver.trans hnext, hrest⟩
  rw [hkept, hcapacity, hall.kept]

/-- Who has a receiver receives what is sent. -/
lemma send (h : c.Waits name pending) (a : α) : (c.send a).Waits name (pending ++ [a]) := by
  obtain ⟨all, next, hall, hreceiver, hnext, rfl⟩ := h
  have hne : c.receivers ≠ [] := by
    intro hnil
    rw [receiver?, hnil] at hreceiver
    cases hreceiver
  refine ⟨all ++ [a], next, hall.send hne a, ?_, ?_, ?_⟩
  · rw [Channel.send, if_neg (by simpa using hne)]
    exact hreceiver
  · rw [List.length_append]
    exact Nat.le_add_right_of_le hnext
  · rw [List.drop_append_of_le_length hnext]

/-- Reading tells the receiver about the first values that it has pending. -/
lemma receive (h : c.Waits name pending) :
    (c.receive name).1 = some (upNext c.capacity c.senders pending) ∧
      (c.receive name).2.Waits name
        (pending.drop (upNext c.capacity c.senders pending).span) := by
  obtain ⟨all, next, hall, hreceiver, hnext, rfl⟩ := h
  have hspan := span_upNext_le c.capacity c.senders (all.drop next)
  rw [List.length_drop] at hspan
  rw [Channel.receive, hreceiver]
  dsimp only
  rw [readAt_eq hall hnext]
  refine ⟨rfl, all, _, ⟨hall.sent, hall.kept⟩, ?_, ?_, List.drop_drop⟩
  · rw [receiver?_move, hreceiver, Option.map_some, if_pos rfl]
  · omega

/-- What other receivers read makes no difference. -/
lemma receive_of_ne (h : c.Waits name pending) (hne : other ≠ name) :
    (c.receive other).2.Waits name pending := by
  rw [Channel.receive]
  split
  · exact h
  · exact h.of_same rfl rfl rfl (receiver?_move_of_ne hne _)

end Waits

/-! ### Requests -/

/-- A request that finds no sender where it needs one does nothing. -/
lemma handle_of_missing {r : Request α} (h : (needsSender r && c.senders == 0) = true) :
    c.handle r = (.missing, c) := by
  unfold handle
  rw [if_pos h]

/-- A request to read is answered by what the receiver gets, if there is one. -/
lemma handle_receive (c : Channel α) (other : String) :
    c.handle (.receive other)
      = (((c.receive other).1.map .received).getD .missing, (c.receive other).2) := by
  rw [handle, needsSender, Bool.false_and, if_neg Bool.false_ne_true]
  obtain ⟨got, c'⟩ := c.receive other
  cases got <;> rfl

lemma toldTo_handle_receive (c : Channel α) (name other : String) :
    toldTo name (.receive other, (c.handle (.receive other)).1)
      = if other = name then (c.receive other).1 else none := by
  rw [handle_receive]
  cases (c.receive other).1 with
  | none => exact (ite_self none).symm
  | some got => rfl

/-- A request to send is done where there is a sender. -/
lemma handle_send (h : c.senders ≠ 0) (a : α) : c.handle (.send a) = (.done, c.send a) := by
  rw [handle, if_neg (by simpa [needsSender] using h)]

/-- A request to subscribe is done where there is a sender. -/
lemma handle_subscribe (h : c.senders ≠ 0) (name : String) :
    c.handle (.subscribe name) = (.done, c.subscribe name) := by
  rw [handle, if_neg (by simpa [needsSender] using h)]

lemma senders_send (c : Channel α) (a : α) : (c.send a).senders = c.senders := by
  rw [send]
  split <;> rfl

/-- Sending values in order is asking to send each of them. -/
lemma after_map_send (h : c.senders ≠ 0) (as : List α) :
    c.after (as.map .send) = c.sendAll as := by
  induction as generalizing c with
  | nil => rfl
  | cons a as ih =>
      rw [List.map_cons, after_cons, handle_send h]
      exact ih (by rwa [senders_send])

lemma sends_map_send (h : c.senders ≠ 0) (as : List α) : c.sends (as.map .send) = as := by
  induction as generalizing c with
  | nil => rfl
  | cons a as ih =>
      rw [List.map_cons, sends_cons, handle_send h, ih (by rwa [senders_send])]
      rfl

lemma senders_sendAll (c : Channel α) (as : List α) : (c.sendAll as).senders = c.senders := by
  induction as generalizing c with
  | nil => rfl
  | cons a as ih => exact (ih (c.send a)).trans (senders_send c a)

namespace Waits

/-- **One request** keeps account: what was pending and what is sent now is what the receiver is
told and what it has pending afterwards. -/
lemma step (h : c.Waits name pending) {r : Request α} (hr : r.keeps name = true) :
    ∃ pending', (c.handle r).2.Waits name pending' ∧
      Received.Accounts (toldTo name (r, (c.handle r).1)).toList
        (pending ++ (sentBy (r, (c.handle r).1)).toList) pending' := by
  have hquiet : Received.Accounts [] (pending ++ []) pending := by
    rw [List.append_nil]
    exact .nil pending
  by_cases hmissing : (needsSender r && c.senders == 0) = true
  · rw [handle_of_missing hmissing]
    exact ⟨pending, h, by cases r <;> exact hquiet⟩
  · cases r with
    | receive other =>
        rw [toldTo_handle_receive, handle_receive]
        -- only what the receiver reads itself takes anything from what it has pending
        by_cases hname : other = name
        · subst hname
          obtain ⟨htold, hafter⟩ := h.receive
          refine ⟨_, hafter, ?_⟩
          rw [if_pos rfl, htold]
          have hfirst := Received.Accounts.singleton (covers_upNext c.capacity c.senders pending)
            (pending.drop (upNext c.capacity c.senders pending).span)
          rw [List.take_append_drop] at hfirst
          simpa [sentBy] using hfirst
        · rw [if_neg hname]
          exact ⟨pending, h.receive_of_ne hname, hquiet⟩
    | subscribe other =>
        rw [handle, if_neg hmissing]
        have hne : other ≠ name := by simpa [Request.keeps] using hr
        exact ⟨pending, h.of_same rfl rfl rfl (receiver?_subscribe_of_ne hne), hquiet⟩
    | send a =>
        rw [handle, if_neg hmissing]
        exact ⟨pending ++ [a], h.send a, .nil _⟩
    | drop other =>
        rw [handle, if_neg hmissing]
        have hne : other ≠ name := by simpa [Request.keeps] using hr
        exact ⟨pending, h.of_same rfl rfl rfl (receiver?_drop_of_ne hne), hquiet⟩
    | count | clone | close =>
        rw [handle, if_neg hmissing]
        exact ⟨pending, h.of_same rfl rfl rfl rfl, hquiet⟩

/-- **Any series of requests** keeps account: what was pending and what is sent over them is what
the receiver is told and what it has pending in the end. -/
lemma run (h : c.Waits name pending) {rs : List (Request α)}
    (hrs : ∀ r ∈ rs, r.keeps name = true) :
    ∃ pending', (c.after rs).Waits name pending' ∧
      Received.Accounts (c.heard name rs) (pending ++ c.sends rs) pending' := by
  induction rs generalizing c pending with
  | nil =>
      refine ⟨pending, h, ?_⟩
      rw [sends, List.zip_nil_left, List.filterMap_nil, List.append_nil]
      exact .nil pending
  | cons r rs ih =>
      obtain ⟨between, hbetween, hstep⟩ := h.step (hrs r List.mem_cons_self)
      obtain ⟨pending', hpending', hrun⟩ :=
        ih hbetween fun r' hr' => hrs r' (List.mem_cons_of_mem r hr')
      refine ⟨pending', hpending', ?_⟩
      rw [heard_cons, sends_cons, ← List.append_assoc]
      exact hstep.append hrun

end Waits

/-- A channel has a history, whatever is asked of it. -/
lemma Holds.step (h : c.Holds all) (r : Request α) : ∃ all', (c.handle r).2.Holds all' := by
  by_cases hmissing : (needsSender r && c.senders == 0) = true
  · rw [handle_of_missing hmissing]
    exact ⟨all, h⟩
  · cases r with
    | send a =>
        rw [handle, if_neg hmissing]
        by_cases hnil : c.receivers = []
        · exact ⟨all, by rw [Channel.send, if_pos (by simpa using hnil)]; exact h⟩
        · exact ⟨all ++ [a], h.send hnil a⟩
    | receive other =>
        rw [handle_receive, receive]
        split
        · exact ⟨all, h⟩
        · exact ⟨all, h.sent, h.kept⟩
    | _ =>
        rw [handle, if_neg hmissing]
        exact ⟨all, h.sent, h.kept⟩

lemma exists_holds_after (h : c.Holds all) (rs : List (Request α)) :
    ∃ all', (c.after rs).Holds all' := by
  induction rs generalizing c all with
  | nil => exact ⟨all, h⟩
  | cons r rs ih =>
      obtain ⟨all', h'⟩ := h.step r
      exact ih h'

/-- A request leaves the capacity of a channel as it is. -/
lemma capacity_handle (c : Channel α) (r : Request α) : (c.handle r).2.capacity = c.capacity := by
  by_cases hmissing : (needsSender r && c.senders == 0) = true
  · rw [handle_of_missing hmissing]
  · cases r with
    | send a =>
        rw [handle, if_neg hmissing]
        dsimp only
        rw [send]
        split <;> rfl
    | receive other =>
        rw [handle_receive, receive]
        split <;> rfl
    | count => rw [handle, if_neg hmissing]
    | subscribe | drop | clone | close =>
        rw [handle, if_neg hmissing]
        rfl

lemma capacity_after (c : Channel α) (rs : List (Request α)) :
    (c.after rs).capacity = c.capacity := by
  induction rs generalizing c with
  | nil => rfl
  | cons r rs ih => rw [after_cons, ih, capacity_handle]

/-! ### What comes next -/

/-- What the receiver of this name is told next: the first value that is pending, unless more are
pending than are kept; then it is told how many it lost. Nothing pending is told apart by whether
there are senders. -/
structure ReadsNext (c : Channel α) (name : String) (pending : List α) : Prop where
  /-- It gets the first value if all pending ones are kept. -/
  value : ∀ a, (c.receive name).1 = some (.value a) ↔
    pending.length ≤ c.capacity ∧ pending.head? = some a
  /-- It lost values if more are pending than are kept, and as many as there are more. -/
  lagged : ∀ count, (c.receive name).1 = some (.lagged count) ↔
    c.capacity < pending.length ∧ count = pending.length - c.capacity
  /-- There is nothing yet. -/
  empty : (c.receive name).1 = some .empty ↔ pending = [] ∧ c.senders ≠ 0
  /-- There is nothing any more. -/
  closed : (c.receive name).1 = some .closed ↔ pending = [] ∧ c.senders = 0

lemma Waits.readsNext (h : c.Waits name pending) : c.ReadsNext name pending := by
  have hnext := h.receive.1
  by_cases hlag : c.capacity < pending.length
  · have hne : pending ≠ [] := List.ne_nil_of_length_pos (by omega)
    have hmore : ¬pending.length ≤ c.capacity := Nat.not_le.mpr hlag
    rw [upNext, if_pos hlag] at hnext
    refine ⟨fun a => ?_, fun count => ?_, ?_, ?_⟩ <;>
      simp only [hnext, hlag, hne, hmore, Option.some.injEq, Received.lagged.injEq, reduceCtorEq,
        true_and, false_and, eq_comm]
  · have hle := Nat.le_of_not_lt hlag
    rw [upNext, if_neg hlag] at hnext
    cases pending with
    | cons a rest =>
        rw [List.head?_cons, Option.map_some, Option.getD_some] at hnext
        refine ⟨fun a => ?_, fun count => ?_, ?_, ?_⟩ <;>
          simp only [hnext, hlag, hle, Option.some.injEq, Received.value.injEq, List.head?_cons,
            reduceCtorEq, true_and, false_and]
    | nil =>
        rw [List.head?_nil, Option.map_none, Option.getD_none] at hnext
        by_cases hsenders : c.senders = 0
        · rw [if_pos hsenders] at hnext
          refine ⟨fun a => ?_, fun count => ?_, ?_, ?_⟩ <;>
            simp only [hnext, hlag, hsenders, Option.some.injEq, List.head?_nil, reduceCtorEq,
              ne_eq, not_true_eq_false, false_and, and_false, and_true]
        · rw [if_neg hsenders] at hnext
          refine ⟨fun a => ?_, fun count => ?_, ?_, ?_⟩ <;>
            simp only [hnext, hlag, hsenders, Option.some.injEq, List.head?_nil, reduceCtorEq,
              ne_eq, not_false_eq_true, false_and, and_false, and_true]

end Channel

end FieldRules
