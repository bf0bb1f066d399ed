/-
Channels: from senders to receivers that each read at their own pace.

* `Channel`: the last values sent, at most `capacity` of them, and for each
  receiver the position of the value that it reads next;
* `Channel.create`: the capacity is the least power of two that is large enough;
* `Channel.create?`, `Channel.ofCapacity?`: a channel cannot be asked to keep no
  values, nor too many, and to ask for none is to ask for one;
* `Channel.send`, `subscribe`, `receive`, `drop`: a receiver gets what is sent
  after it subscribed; one that is more than the capacity behind is told how many
  values it lost and goes on with the oldest one kept;
* `Channel.handle`: requests by name, with a reply to each.
-/
namespace FieldRules

/-- A receiver of a channel. -/
structure Receiver where
  /-- Its name. -/
  name : String
  /-- The position of the value that it reads next. -/
  next : Nat
  deriving DecidableEq

/-- A channel for values of type `α`. -/
structure Channel (α : Type) where
  /-- How many values are kept. -/
  capacity : Nat
  /-- The last values sent, oldest first. -/
  kept : List α
  /-- How many values were sent, which is the position of the next one. -/
  sent : Nat
  /-- How many senders are left. -/
  senders : Nat
  /-- The receivers, each name once. -/
  receivers : List Receiver

/-- What a receiver gets. -/
inductive Received (α : Type) where
  /-- A value. -/
  | value (a : α)
  /-- So many values were lost. -/
  | lagged (count : Nat)
  /-- Nothing yet. -/
  | empty
  /-- Nothing any more. -/
  | closed
  deriving DecidableEq

namespace Channel

variable {α : Type}

/-- The number of values that a channel keeps when `n` are asked for: the least power of two that is
at least `n` and not zero. It is the greatest one that is less than twice as much. -/
def roundCapacity (n : Nat) : Nat :=
  Nat.pow 2 (2 * max n 1 - 1).log2

/-- A channel with one sender and no receivers. -/
def create (n : Nat) : Channel α :=
  ⟨roundCapacity n, [], 0, 1, []⟩

/-- The greatest number of values that a channel can be asked to keep: half of the greatest number
of sixty-four bits. -/
def maxRequest : Nat := (Nat.pow 2 64 - 1) / 2

/-- The channel that is asked to keep `n` values, if there is one. -/
def create? (n : Nat) : Option (Channel α) :=
  if 1 ≤ n ∧ n ≤ maxRequest then some (create n) else none

/-- The channel for a capacity, if there is one. A capacity of zero is raised to one, since no
channel keeps nothing. -/
def ofCapacity? (n : Nat) : Option (Channel α) :=
  create? (max n 1)

/-- The last `n` values of a list. -/
def lastOf (n : Nat) (as : List α) : List α :=
  as.drop (as.length - n)

/-- Sends a value. Without receivers it is lost. -/
def send (c : Channel α) (a : α) : Channel α :=
  if c.receivers.isEmpty then c
  else { c with kept := lastOf c.capacity (c.kept ++ [a]), sent := c.sent + 1 }

/-- Sends values in order. -/
def sendAll (c : Channel α) (as : List α) : Channel α :=
  as.foldl send c

/-- The receiver of this name. -/
def receiver? (c : Channel α) (name : String) : Option Receiver :=
  c.receivers.find? (·.name == name)

/-- Removes the receiver of this name. -/
def drop (c : Channel α) (name : String) : Channel α :=
  { c with receivers := c.receivers.filter (·.name != name) }

/-- Adds a receiver of this name, in place of the one that had it. It reads what is sent from now
on. -/
def subscribe (c : Channel α) (name : String) : Channel α :=
  { c.drop name with receivers := (c.drop name).receivers ++ [⟨name, c.sent⟩] }

/-- The position of the oldest value kept. -/
def oldest (c : Channel α) : Nat :=
  c.sent - c.kept.length

/-- What a receiver at this position gets, and its position afterwards. -/
def readAt (c : Channel α) (next : Nat) : Received α × Nat :=
  if c.capacity < c.sent - next then
    (.lagged (c.sent - c.capacity - next), c.sent - c.capacity)
  else
    match c.kept[next - c.oldest]? with
    | some a => (.value a, next + 1)
    | none => (if c.senders = 0 then .closed else .empty, next)

/-- Moves the receiver of this name. -/
def move (c : Channel α) (name : String) (next : Nat) : Channel α :=
  { c with receivers := c.receivers.map fun r => if r.name = name then ⟨r.name, next⟩ else r }

/-- What the receiver of this name gets, if there is one, and the channel afterwards. -/
def receive (c : Channel α) (name : String) : Option (Received α) × Channel α :=
  match c.receiver? name with
  | none => (none, c)
  | some r =>
    let (got, next) := c.readAt r.next
    (some got, c.move name next)

/-- What the receiver of this name gets until there is nothing more, and the channel afterwards. A
receiver reads at most all values kept, after being told once what it lost. -/
def drainWith (name : String) : Nat → Channel α → List (Received α) × Channel α
  | 0, c => ([], c)
  | fuel + 1, c =>
    match c.receive name with
    | (some (.value a), c) =>
      let (rest, c) := drainWith name fuel c
      (.value a :: rest, c)
    | (some (.lagged n), c) =>
      let (rest, c) := drainWith name fuel c
      (.lagged n :: rest, c)
    | (some got, c) => ([got], c)
    | (none, c) => ([], c)

/-- Everything that the receiver of this name gets now, if there is one. -/
def drain (c : Channel α) (name : String) : Option (List (Received α)) × Channel α :=
  match c.receiver? name with
  | none => (none, c)
  | some _ =>
    let (got, c) := drainWith name (c.kept.length + 2) c
    (some got, c)

/-- One more sender. -/
def clone (c : Channel α) : Channel α :=
  { c with senders := c.senders + 1 }

/-- One sender less, if there is one. -/
def close (c : Channel α) : Channel α :=
  { c with senders := c.senders - 1 }

/-! ### Requests -/

/-- What can be asked of a channel. -/
inductive Request (α : Type) where
  /-- Add a receiver. -/
  | subscribe (name : String)
  /-- Send a value. -/
  | send (a : α)
  /-- Read as a receiver. -/
  | receive (name : String)
  /-- Remove a receiver. -/
  | drop (name : String)
  /-- Count the receivers. -/
  | count
  /-- Add a sender. -/
  | clone
  /-- Remove a sender. -/
  | close

/-- The reply to a request. -/
inductive Answer (α : Type) where
  /-- Done. -/
  | done
  /-- There is no sender, or no such receiver. -/
  | missing
  /-- What a receiver got. -/
  | received (r : Received α)
  /-- Whether there was such a receiver. -/
  | existed (b : Bool)
  /-- How many there are. -/
  | number (n : Nat)

/-- Whether a request needs a sender. -/
def needsSender : Request α → Bool
  | .subscribe _ | .send _ | .count | .clone => true
  | .receive _ | .drop _ | .close => false

/-- The reply to a request, and the channel afterwards. -/
def handle (c : Channel α) (r : Request α) : Answer α × Channel α :=
  if needsSender r && c.senders == 0 then (.missing, c)
  else
    match r with
    | .subscribe name => (.done, c.subscribe name)
    | .send a => (.done, c.send a)
    | .receive name =>
      match c.receive name with
      | (some got, c) => (.received got, c)
      | (none, c) => (.missing, c)
    | .drop name => (.existed (c.receiver? name).isSome, c.drop name)
    | .count => (.number c.receivers.length, c)
    | .clone => (.done, c.clone)
    | .close => (.number c.close.senders, c.close)

/-- The replies to requests made one after the other. -/
def handleAll (c : Channel α) : List (Request α) → List (Answer α)
  | [] => []
  | r :: rest =>
    let (answer, c) := c.handle r
    answer :: handleAll c rest

end Channel

end FieldRules
