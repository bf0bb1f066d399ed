/-
What somebody knows who reads the events of a store from its channel.

* `Occurrence`: a call in which a store takes part, after which what it published is
  sent, or something that a reader asks of the channel;
* `Store.requests`, `Store.through`: what all of them ask of the channel, and the
  store afterwards;
* `messages_through`: the events that are sent tell the messages of the store;
* `Session.deliver_eq`: a session delivers what a store published by asking its
  channel to send it;
* `lastPayload_values`: what a reader got without a later loss ends as all that was
  sent ends;
* `Channel.Accounting`: a receiver is told about everything that is sent;
* `subscriber_accounts_for_every_event`: whatever else is asked of a channel, its
  receivers can account for all events and for all senders, and one that has read all
  that it has pending knows the messages of the store.
-/
import FieldRules.Proofs.Channel.Senders
import FieldRules.Proofs.Site.Reachable
import FieldRules.Proofs.Store.History
import FieldRules.Session.Basic

namespace FieldRules

/-- What can happen to a store and to those who read its events. -/
inductive Occurrence where
  /-- The store takes part in a call. What it published is sent. -/
  | call (u : Use)
  /-- Somebody begins to read. -/
  | subscribe (reader : String)
  /-- Somebody reads. -/
  | receive (reader : String)
  /-- Somebody stops reading. -/
  | drop (reader : String)

namespace Occurrence

/-- What is asked of the channel of the store. -/
def requests (s : Store) : Occurrence → List (Channel.Request Event)
  | call u => (u.apply s).collect.1.map .send
  | subscribe reader => [.subscribe reader]
  | receive reader => [.receive reader]
  | drop reader => [.drop reader]

/-- The store after the occurrence. -/
def store (s : Store) : Occurrence → Store
  | call u => (u.apply s).collect.2
  | _ => s

end Occurrence

namespace Store

/-- What is asked of the channel of a store, one occurrence after the other. -/
def requests (s : Store) : List Occurrence → List (Channel.Request Event)
  | [] => []
  | o :: os => o.requests s ++ (o.store s).requests os

/-- The store after one occurrence after the other. -/
def through (s : Store) (os : List Occurrence) : Store :=
  os.foldl Occurrence.store s

end Store

section Sending

variable {s : Store} {c : Channel Event}

/-- After an occurrence nothing is left to be sent, and there is still a sender. -/
lemma Occurrence.kept (hs : s.published = []) (hc : c.senders ≠ 0) (o : Occurrence) :
    (o.store s).published = [] ∧ (c.after (o.requests s)).senders ≠ 0 := by
  cases o with
  | call u =>
      rw [requests, Channel.after_map_send hc, Channel.senders_sendAll]
      exact ⟨rfl, hc⟩
  | subscribe reader =>
      rw [requests, Channel.after_cons, Channel.handle_subscribe hc]
      exact ⟨hs, hc⟩
  | receive reader =>
      rw [requests, Channel.after_cons, Channel.handle_receive, Channel.receive]
      refine ⟨hs, ?_⟩
      split <;> exact hc
  | drop reader => exact ⟨hs, hc⟩

/-- The events that are sent tell what an occurrence does to the messages. -/
lemma Occurrence.messages_store (hs : s.published = []) (hc : c.senders ≠ 0) (o : Occurrence)
    (field : String) :
    (o.store s).messages field
      = (lastPayload field (c.sends (o.requests s))).getD (s.messages field) := by
  cases o with
  | call u =>
      obtain ⟨es, hes⟩ := u.writes s
      have hpublished : (u.apply s).collect.1 = es := by
        rw [Store.collect, hes.published, hs, List.nil_append]
      rw [requests, Channel.sends_map_send hc, hpublished]
      exact hes.messages field
  | _ =>
      rw [requests, Channel.sends_cons]
      rfl

/-- The events that are sent tell the messages of the store. -/
lemma Store.messages_through (hs : s.published = []) (hc : c.senders ≠ 0) (os : List Occurrence)
    (field : String) :
    (s.through os).messages field
      = (lastPayload field (c.sends (s.requests os))).getD (s.messages field) := by
  induction os generalizing s c with
  | nil => rfl
  | cons o os ih =>
      obtain ⟨hs', hc'⟩ := o.kept hs hc
      have hrest : (s.through (o :: os)).messages field = ((o.store s).through os).messages field :=
        rfl
      rw [hrest, ih hs' hc', o.messages_store hs hc, Store.requests, Channel.sends_append,
        lastPayload_append]
      cases lastPayload field ((c.after (o.requests s)).sends ((o.store s).requests os)) <;> rfl

/-- A session delivers what a target published by asking its channel to send it. -/
lemma Session.deliver_eq {σ : Session} {target : String} {t : Target}
    (ht : σ.target? target = some t) (hchannel : σ.channels[t.channel]? = some c)
    (hc : c.senders ≠ 0) :
    (σ.deliver target).2.channels[t.channel]?
        = some (c.after (t.subject.store.collect.1.map .send)) ∧
      (σ.deliver target).2.target? target = some (t.withStore t.subject.store.collect.2) := by
  rw [Session.deliver, ht, Channel.after_map_send hc]
  constructor
  · simp [Session.putTarget, hchannel]
  · simp [Session.target?, Session.putTarget]

end Sending

/-! ### Reading -/

/-- If nothing is pending and nothing was lost since an event was received, then the last event of
its field that was received is the last one that was sent. -/
lemma lastPayload_values {before since : List (Received Event)} {sent : List Event} {e : Event}
    (h : Received.Accounts (before ++ since) sent []) (hloss : ∀ count, .lagged count ∉ since)
    (he : e ∈ Received.values since) :
    ∃ ms, lastPayload e.field (Received.values (before ++ since)) = some ms ∧
      lastPayload e.field sent = some ms := by
  obtain ⟨ms, hms⟩ := exists_lastPayload he
  obtain ⟨first, rfl⟩ := h.values_of_no_loss hloss
  refine ⟨ms, ?_, ?_⟩
  · rw [Received.values_append, lastPayload_append, hms, Option.some_or]
  · rw [List.append_nil, lastPayload_append, hms, Option.some_or]

namespace Channel

/-- Over these requests the receiver of this name is told about everything that is sent, up to the
values that are pending. -/
structure Accounting {α : Type} (c : Channel α) (name : String) (rs : List (Request α))
    (pending : List α) : Prop where
  /-- What it is told stands for what is sent, piece by piece and in order: a value for itself, and
  a loss for as many values as it counts. -/
  inOrder : Received.Accounts (c.heard name rs) (c.sends rs) pending
  /-- It gets values in the order in which they are sent, and none of them twice. -/
  once : (Received.values (c.heard name rs)).Sublist (c.sends rs)
  /-- What it gets, what it is told to have lost and what is pending are as many as are sent. -/
  total : (Received.values (c.heard name rs)).length + Received.lost (c.heard name rs)
    + pending.length = (c.sends rs).length
  /-- What it is told next depends on what is pending. -/
  next : (c.after rs).ReadsNext name pending

/-- A receiver that has just begun to read is told about everything that is sent from then on. -/
lemma accounting_of_waits {α : Type} {c : Channel α} {name : String} {rs : List (Request α)}
    (h : c.Waits name []) (hrs : ∀ r ∈ rs, r.keeps name = true) :
    ∃ pending, c.Accounting name rs pending := by
  obtain ⟨pending, hwaits, haccounts⟩ := h.run hrs
  exact ⟨pending, haccounts, haccounts.sublist, haccounts.total, hwaits.readsNext⟩

/-- A receiver that has read all that it has pending knows what the store of the channel has for
every field with an event that it received after its last loss. -/
lemma Accounting.messages {s : Store} {os : List Occurrence} {c : Channel Event} {name : String}
    {before since : List (Received Event)} {e : Event}
    (h : c.Accounting name (s.requests os) []) (hs : s.published = []) (hc : c.senders ≠ 0)
    (hsplit : c.heard name (s.requests os) = before ++ since)
    (hloss : ∀ count, .lagged count ∉ since) (he : e ∈ Received.values since) :
    lastPayload e.field (Received.values (c.heard name (s.requests os)))
      = some ((s.through os).messages e.field) := by
  have haccounts := h.inOrder
  rw [hsplit] at haccounts ⊢
  obtain ⟨ms, hgot, hsent⟩ := lastPayload_values haccounts hloss he
  rw [hgot, Store.messages_through hs hc, hsent, Option.getD_some]

end Channel

/-- **Subscribers account for every event**: of a channel that `n` values are asked to be kept, with
any history, somebody who subscribes while there is a sender is told about everything that is sent
from then on, whatever else is asked of the channel. It gets events in order and none twice, each
loss stands for as many events as it counts, it is told of a loss if and only if more events are
pending than the capacity, which is the least power of two that is large enough, and of the end if
and only if nothing is pending and no sender is left. The senders that are left are the first one
and those that were ever added, without those that were removed, and one more is added if and only
if one is left.

If the channel is that of a store, with anything happening to them, and nothing is pending, then the
last event received for a field tells what the field has now, for every field with an event that was
received after the last loss, and for every field with an event if there was no loss. What is asked
of the channel of a store is what a session does to deliver what the store published. -/
theorem subscriber_accounts_for_every_event (n : Nat) (front : List (Channel.Request Event))
    (name : String) (hsender : ((Channel.create n).after front).senders ≠ 0)
    (rest : List (Channel.Request Event)) (hkeeps : ∀ r ∈ rest, r.keeps name = true) :
    IsLeast {p | p.isPowerOfTwo ∧ max n 1 ≤ p} (Channel.roundCapacity n) ∧
    (∃ c, ((Channel.create n).after front).handle (.subscribe name) = (.done, c) ∧
      (c.after rest).capacity = Channel.roundCapacity n ∧
      (∃ pending, c.Accounting name rest pending) ∧
      (c.after rest).senders
        = 1 + (Channel.create n).clones (front ++ .subscribe name :: rest)
          - (front ++ .subscribe name :: rest).countP Channel.Request.closes ∧
      (((c.after rest).handle .clone).1 = .done ↔ (c.after rest).senders ≠ 0) ∧
      ∀ (s : Store) (os : List Occurrence), s.published = [] → rest = s.requests os →
        ((c.after rest).receive name).1 = some .empty ∨
          ((c.after rest).receive name).1 = some .closed →
        (∀ before since, c.heard name rest = before ++ since →
          (∀ count, .lagged count ∉ since) → ∀ e ∈ Received.values since,
            lastPayload e.field (Received.values (c.heard name rest))
              = some ((s.through os).messages e.field)) ∧
        ((∀ count, .lagged count ∉ c.heard name rest) → ∀ e ∈ c.sends rest,
          lastPayload e.field (Received.values (c.heard name rest))
            = some ((s.through os).messages e.field))) ∧
    ∀ (σ : Session) (target : String) (t : Target) (c : Channel Event),
      σ.target? target = some t → σ.channels[t.channel]? = some c → c.senders ≠ 0 →
      (σ.deliver target).2.channels[t.channel]?
          = some (c.after (t.subject.store.collect.1.map .send)) ∧
        (σ.deliver target).2.target? target = some (t.withStore t.subject.store.collect.2) := by
  obtain ⟨all, hall⟩ := Channel.exists_holds_after (Channel.Holds.create n) front
  obtain ⟨pending, haccounting⟩ := Channel.accounting_of_waits (hall.subscribe name) hkeeps
  refine ⟨Channel.isLeast_roundCapacity n,
    ⟨_, Channel.handle_subscribe hsender name, ?_, ⟨pending, haccounting⟩, ?_,
      Channel.handle_clone_eq_done_iff _, ?_⟩,
    fun σ target t c => Session.deliver_eq⟩
  · rw [Channel.capacity_after]
    exact Channel.capacity_after _ front
  · have hall := (Channel.create n : Channel Event).senders_after (front ++ .subscribe name :: rest)
    rw [Channel.after_append, Channel.after_cons, Channel.handle_subscribe hsender] at hall
    exact hall
  · rintro s os hs rfl hdrained
    obtain rfl : pending = [] := by
      rcases hdrained with hempty | hclosed
      · exact (haccounting.next.empty.mp hempty).1
      · exact (haccounting.next.closed.mp hclosed).1
    refine ⟨fun before since hsplit hloss e he =>
      haccounting.messages hs hsender hsplit hloss he, fun hloss e he => ?_⟩
    have hsends := haccounting.inOrder.eq_values_append hloss
    rw [List.append_nil] at hsends
    rw [hsends] at he
    exact haccounting.messages hs hsender (List.nil_append _).symm hloss he

/-! ### A reader of an order -/

/-- What an order has when everything that it published was sent. -/
def sentOrder : Store := (order sevenUnits).subject.store.collect.2

/-- The order is validated in full, which publishes three events, and then somebody reads. -/
def readAfterwards : List Occurrence :=
  [.call (.own orders (order sevenUnits) .validateAll),
    .receive "first", .receive "first", .receive "first"]

/-- A channel that keeps two events loses the first of three. The reader is told so, gets the other
two, and then knows what the price of the order has. -/
theorem slow_reader_knows_price :
    ((Channel.create 2 : Channel Event).after [.subscribe "second"]).senders ≠ 0 ∧
      (∀ r ∈ sentOrder.requests readAfterwards, r.keeps "first" = true) ∧
      ∃ c, ((Channel.create 2).after [.subscribe "second"]).handle (.subscribe "first")
          = (.done, c) ∧
        c.heard "first" (sentOrder.requests readAfterwards)
          = [.lagged 1, .value ⟨"Name", [⟨.error, "no name"⟩]⟩,
              .value ⟨"Price", [⟨.warning, "too dear"⟩]⟩] ∧
        lastPayload "Price"
            (Received.values (c.heard "first" (sentOrder.requests readAfterwards)))
          = some ((sentOrder.through readAfterwards).messages "Price") := by
  have hsender : ((Channel.create 2 : Channel Event).after [.subscribe "second"]).senders ≠ 0 := by
    decide
  have hkeeps : ∀ r ∈ sentOrder.requests readAfterwards, r.keeps "first" = true :=
    List.all_eq_true.mp rfl
  obtain ⟨_, ⟨c, hc, _, _, _, _, hstore⟩, _⟩ :=
    subscriber_accounts_for_every_event 2 [.subscribe "second"] "first" hsender
      (sentOrder.requests readAfterwards) hkeeps
  obtain rfl : _ = c := congrArg Prod.snd hc
  obtain ⟨hsince, _⟩ := hstore sentOrder readAfterwards rfl rfl (.inl rfl)
  refine ⟨hsender, hkeeps, _, hc, rfl, ?_⟩
  exact hsince [.lagged 1]
    [.value ⟨"Name", [⟨.error, "no name"⟩]⟩, .value ⟨"Price", [⟨.warning, "too dear"⟩]⟩]
    rfl (by simp) ⟨"Price", [⟨.warning, "too dear"⟩]⟩ (.tail _ (.head _))

end FieldRules
