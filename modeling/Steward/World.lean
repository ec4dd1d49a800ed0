import Steward.Broker
import Steward.Call.Timeline
import Steward.Interceptor
import Steward.Rehearsal.Script
import Steward.Store.Basic
import Steward.Supply

/-!
# The world of an operation

Everything an operation can look at or change, and operations as functions on it. An operation that
stops keeps what it has changed until then.
-/

namespace Steward

/-- What operations work on. `Item` is what the broker hands to those who listen. -/
structure World (Item : Type) where
  timeline : Timeline := {}
  store : Store := {}
  /-- The readings of the wall clock. -/
  clock : Supply Timestamp
  /-- Texts that tell ids apart. -/
  ids : Supply String
  broker : Broker Item := .ofCapacity 100
  interceptor : Interceptor := {}
  /-- The stand-ins of a rehearsal; of no account otherwise. -/
  script : Script := {}

/-- An operation on the world. -/
abbrev Op (Item α : Type) := EStateM Stop (World Item) α

namespace Op

variable {Item α : Type}

def fail (failure : Failure) : Op Item α :=
  throw (.failed failure)

/-- The value of an answer, or a stop with its failure. -/
def ofExcept : Except Failure α → Op Item α
  | .ok a => pure a
  | .error failure => fail failure

/-- A value, or a stop. -/
def ofOutcome : Except Stop α → Op Item α
  | .ok a => pure a
  | .error stop => throw stop

/-- The outcome of a run, with the world it leaves behind. -/
def outcome (op : Op Item α) (w : World Item) : Except Stop α × World Item :=
  match op.run w with
  | .ok a w => (.ok a, w)
  | .error stop w => (.error stop, w)

/-! ## Time -/

def onTimeline (f : Timeline → α × Timeline) : Op Item α :=
  modifyGet fun w => ((f w.timeline).1, { w with timeline := (f w.timeline).2 })

/-- Fails if the call is cancelled or its deadline has come. -/
def check (call : Call) : Op Item Unit := do
  ofExcept ((← get).timeline.check call)

/-- Lets time pass, whatever happens to any call. -/
def sleep (duration : Nat) : Op Item Unit :=
  onTimeline fun t => ((), t.advanceTo (t.wake duration))

/-- Gives others their turn. -/
def giveWay : Op Item Unit :=
  onTimeline fun t => ((), t.giveWay)

/-- A call made on behalf of another. -/
def child (call : Call) : Op Item Call :=
  onTimeline fun t => t.child call

/-- Runs something that takes effect after some time, unless the call is stopped before that. -/
def guarded (call : Call) (duration : Nat) (effect : Op Item α) : Op Item α := do
  let wait ← onTimeline fun t => t.await call (some (t.wake duration))
  match wait with
  | .stopped failure => fail failure
  | _ => effect

/-! ## Supplies -/

def readClock : Op Item Timestamp :=
  modifyGet fun w => (w.clock.next.1, { w with clock := w.clock.next.2 })

/-- A text that tells ids apart. -/
def uniqueText : Op Item String :=
  modifyGet fun w => (w.ids.next.1, { w with ids := w.ids.next.2 })

def newId (kind : Kind) : Op Item String := do
  return kind.id (← uniqueText)

/-! ## The store -/

def onStore {β : Type} (f : Store → β × Store) : Op Item β :=
  modifyGet fun w => ((f w.store).1, { w with store := (f w.store).2 })

/-- How long an operation of the store takes. -/
def storeDelay : Op Item Nat := do
  return (← get).store.delay.getD 0

def storePut (key : Store.Key) (value : ByteArray) : Op Item (Except Store.Failure Unit) := do
  match (← get).store.backing with
  | .memory _ => onStore fun s => s.put key value ""
  | .files _ =>
    let unique ← uniqueText
    onStore fun s => s.put key value unique

def put (call : Call) (key : Store.Key) (value : ByteArray) :
    Op Item (Except Store.Failure Unit) := do
  guarded call (← storeDelay) (storePut key value)

def fetch (call : Call) (key : Store.Key) : Op Item (Except Store.Failure ByteArray) := do
  guarded call (← storeDelay) (onStore fun s => s.get key)

def delete (call : Call) (key : Store.Key) : Op Item (Except Store.Failure Unit) := do
  guarded call (← storeDelay) (onStore fun s => s.delete key)

def list (call : Call) (kind : String) : Op Item (Except Store.Failure (List ByteArray)) := do
  guarded call (← storeDelay) (onStore fun s => s.list kind)

/-! ## The broker, the interceptor and the script -/

/-- Hands an item to those who listen to a topic; the answer is how many queues took it. -/
def publish (topic : String) (item : Item) : Op Item Nat :=
  modifyGet fun w =>
    ((w.broker.broadcast topic item).1, { w with broker := (w.broker.broadcast topic item).2 })

/-- The call with the kind that a method is about. -/
def intercept (method : String) (call : Call) : Op Item Call :=
  modifyGet fun w =>
    ((w.interceptor.intercept method call).1,
      { w with interceptor := (w.interceptor.intercept method call).2 })

def modifyScript (f : Script → Script) : Op Item Unit :=
  modify fun w => { w with script := f w.script }

end Op

end Steward
