/-
  The bench — one loop by itself, with a source that is fed by hand, a channel
  that is emptied by hand, and an abort inside a scope.

  `Bench.settle` lets the loop run until no branch is ready, always taking the
  first branch that is; `Bench.apply` does one thing by hand.
-/
import GrpcRelay.Relay.RequestLoop
import GrpcRelay.Relay.ResponseLoop

namespace GrpcRelay

/-- A loop of either direction. -/
inductive Pump where
  | up (u : RequestLoop)
  | down (d : ResponseLoop)

namespace Pump

def source : Pump → Source
  | up u => u.source
  | down d => d.source

def withSource (s : Source) : Pump → Pump
  | up u => up { u with source := s }
  | down d => down { d with source := s }

def start : Pump → Pump
  | up u => up u.start
  | down d => down d.start

/-- Whether the source can still be fed. -/
def listens : Pump → Bool
  | up u => u.listens
  | down d => d.listens

def hasReturned : Pump → Bool
  | up u => u.hasReturned
  | down d => d.hasReturned

/-- The outcome that a response loop returned. -/
def outcome? : Pump → Option Outcome
  | up _ => none
  | down d => d.outcome?

def closeReceiver : Pump → Pump
  | up u => up { u with sink := u.sink.closeReceiver }
  | down d => down { d with sink := d.sink.closeReceiver }

/-- Runs the first branch that is ready. -/
def advance? (scope : Bool) (a : Abort) : Pump → Option (Pump × Abort)
  | up u => (RequestLoop.Move.all.findSome? (u.step? scope a)).map fun r => (up r.1, r.2)
  | down d => (ResponseLoop.Move.all.findSome? (d.step? scope a)).map fun r => (down r.1, r.2)

end Pump

/-- What an emptied channel shows. -/
inductive Taken where
  | item (i : Item)
  /-- Nothing waits. -/
  | pending
  /-- Nothing waits and the sender has left. -/
  | ended
  /-- The receiver was dropped before. -/
  | dropped
  deriving DecidableEq

/-- Takes an item from a channel without waiting. -/
def Channel.poll {α : Type} (c : Channel α) (item : α → Item) : Taken × Channel α :=
  if !c.receiverOpen then (.dropped, c)
  else
    match c.take? with
    | some (a, c) => (.item (item a), c)
    | none => (if c.senderOpen then .pending else .ended, c)

/-- A loop with its abort and the state of the scope around it. -/
structure Bench where
  pump : Pump
  abort : Abort
  scope : Bool
  /-- The trailers with which the source ends. -/
  trailers : Trailers

/-- What can be done by hand. -/
inductive BenchOp where
  | push (i : Item)
  /-- The source ends. -/
  | finish
  | take
  | dropSink
  | abort (s : Status)
  | close
  | cancelScope
  | look

/-- What a step by hand answers. -/
inductive BenchAnswer where
  | nothing
  | sent
  | closed
  | taken (t : Taken)
  deriving DecidableEq

namespace Bench

/-- A bench for a request loop that has not been started, if there is a channel of this
    capacity. -/
def ofRequest? (capacity : Nat) : Option Bench :=
  if Channel.isCapacity capacity then some ⟨.up (.idle .empty capacity), .fresh, false, .ok none⟩
  else none

/-- A bench for a response loop that has not been started, if there is a channel of this
    capacity. -/
def ofResponse? (capacity : Nat) (trailers : Trailers) : Option Bench :=
  if Channel.isCapacity capacity then
    some ⟨.down (.idle .empty capacity), .fresh, false, trailers⟩
  else none

/-- Runs at most `fuel` branches. -/
def run (b : Bench) : Nat → Bench
  | 0 => b
  | fuel + 1 =>
    match b.pump.advance? b.scope b.abort with
    | none => b
    | some (pump, abort) => { b with pump, abort }.run fuel

/-- Lets the loop run until nothing moves: an item takes at most two branches, and the end of
    the loop at most five more. -/
def settle (b : Bench) : Bench := b.run (2 * b.pump.source.queue.length + 8)

/-- Starts the loop. -/
def start (b : Bench) : Bench := { b with pump := b.pump.start }

def poll : Pump → Taken × Pump
  | .up u =>
    let (t, sink) := u.sink.poll Item.frame
    (t, .up { u with sink })
  | .down d =>
    let (t, sink) := d.sink.poll id
    (t, .down { d with sink })

/-- Does one thing by hand. -/
def apply (b : Bench) : BenchOp → BenchAnswer × Bench
  | .push i =>
    if b.pump.listens then
      (.sent, { b with pump := b.pump.withSource (b.pump.source.push i) })
    else (.closed, b)
  | .finish =>
    if b.pump.source.ended then (.nothing, b)
    else (.nothing, { b with pump := b.pump.withSource (b.pump.source.closeWith b.trailers) })
  | .take =>
    let (t, pump) := poll b.pump
    (.taken t, { b with pump })
  | .dropSink => (.nothing, { b with pump := b.pump.closeReceiver })
  | .abort s => (.nothing, { b with abort := b.abort.abort s })
  | .close => (.nothing, { b with abort := b.abort.signal })
  | .cancelScope => (.nothing, { b with scope := true })
  | .look => (.nothing, b)

end Bench

end GrpcRelay
