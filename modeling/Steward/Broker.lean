/-!
# The stream broker

Fan-out of updates to those who listen to an id. Every subscription has a queue of its own with
room for a fixed number of updates; an update that finds the queue full is dropped for that
subscription. Broadcasting never waits.

A subscription is registered until it is unsubscribed, or until the first broadcast on its id after
its listener has gone. What is in its queue by then can still be received.
-/

namespace Steward

/-- One subscription: its number, the id it listens to and what has not been received yet. -/
structure Subscription (α : Type) where
  number : Nat
  topic : String
  pending : List α := []
  /-- Broadcasts still reach the queue. -/
  registered : Bool := true
  /-- There is still somebody to receive from the queue. -/
  attended : Bool := true
deriving DecidableEq

/-- What is found when receiving without waiting. -/
inductive Received (α : Type) where
  | item (value : α)
  /-- Nothing yet. -/
  | empty
  /-- Nothing, and nothing more will come. -/
  | closed
deriving DecidableEq

structure Broker (α : Type) where
  /-- The number of updates that a queue has room for. -/
  capacity : Nat
  /-- The number of the next subscription. It grows without end, so that none is given out twice; a
  counter of 64 bits would start again after 2 ^ 64 subscriptions. -/
  nextNumber : Nat := 1
  /-- All subscriptions so far, the oldest first. -/
  subscriptions : List (Subscription α) := []
deriving DecidableEq

namespace Subscription

variable {α : Type}

/-- The subscription is reached by broadcasts on a topic. -/
def listensTo (topic : String) (s : Subscription α) : Bool :=
  s.registered && s.topic == topic

/-- The queue takes an update. -/
def accepts (capacity : Nat) (s : Subscription α) : Bool :=
  s.attended && s.pending.length < capacity

/-- Puts an update into the queue if there is room; ends the registration if nobody listens. -/
def offer (capacity : Nat) (value : α) (s : Subscription α) : Subscription α :=
  if s.accepts capacity then { s with pending := s.pending ++ [value] }
  else if s.attended then s
  else { s with registered := false }

end Subscription

namespace Broker

variable {α : Type}

/-- A broker whose queues have room for `capacity` updates, and for one at least. -/
def ofCapacity (capacity : Nat) : Broker α where
  capacity := max capacity 1

/-- Registers a new queue under a topic; the answer is its number. -/
def subscribe (b : Broker α) (topic : String) : Nat × Broker α :=
  (b.nextNumber, { b with
    nextNumber := b.nextNumber + 1
    subscriptions := b.subscriptions ++ [{ number := b.nextNumber, topic := topic }] })

/-- The subscription is registered under a topic and has a given number. -/
def isRegistered (topic : String) (number : Nat) (s : Subscription α) : Bool :=
  s.listensTo topic && s.number == number

/-- Ends a registration; the answer is whether there was one. -/
def unsubscribe (b : Broker α) (topic : String) (number : Nat) : Bool × Broker α :=
  (b.subscriptions.any (isRegistered topic number), { b with
    subscriptions := b.subscriptions.map fun s =>
      if isRegistered topic number s then { s with registered := false } else s })

/-- Offers an update to every queue registered under a topic; the answer is how many took it. -/
def broadcast (b : Broker α) (topic : String) (value : α) : Nat × Broker α :=
  ((b.subscriptions.filter fun s => s.listensTo topic && s.accepts b.capacity).length, { b with
    subscriptions := b.subscriptions.map fun s =>
      if s.listensTo topic then s.offer b.capacity value else s })

def subscriberCount (b : Broker α) (topic : String) : Nat :=
  (b.subscriptions.filter (·.listensTo topic)).length

def find? (b : Broker α) (number : Nat) : Option (Subscription α) :=
  b.subscriptions.find? (·.number == number)

def modify (b : Broker α) (number : Nat) (change : Subscription α → Subscription α) : Broker α :=
  { b with subscriptions := b.subscriptions.map fun s =>
      if s.number == number then change s else s }

def receive (b : Broker α) (number : Nat) : Received α × Broker α :=
  match b.find? number with
  | none => (.closed, b)
  | some s =>
    match s.pending with
    | value :: rest => (.item value, b.modify number fun s => { s with pending := rest })
    | [] => (if s.registered then .empty else .closed, b)

def drain (b : Broker α) (number : Nat) : List α × Broker α :=
  match b.find? number with
  | none => ([], b)
  | some s => (s.pending, b.modify number fun s => { s with pending := [] })

/-- The listener of a subscription goes away, and what is in its queue with it. -/
def dismiss (b : Broker α) (number : Nat) : Broker α :=
  b.modify number fun s => { s with pending := [], attended := false }

/-- Ends all registrations, as when the broker itself goes away. -/
def shutDown (b : Broker α) : Broker α :=
  { b with subscriptions := b.subscriptions.map fun s => { s with registered := false } }

end Broker

end Steward
