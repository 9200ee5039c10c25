/-
  The request loop — carries the caller's frames to the backend.

  The loop reads a frame, puts it into its channel and reads the next.  It
  returns when the caller's stream ends, when the channel's receiver has left,
  when the abort is cancelled, and when the caller's stream fails; only the
  last records a reason and gives the signal.  Returning gives up the source
  and the sending end of the channel.

  At each of its waits the loop may go on by any branch that is ready:
  `RequestLoop.step?` runs one branch, named by a `RequestLoop.Move`, and is `none`
  where that branch is not ready.
-/
import GrpcRelay.Abort
import GrpcRelay.Channel
import GrpcRelay.Relay.Source

namespace GrpcRelay

/-- Why the request loop returned. -/
inductive RequestLoopEnd where
  /-- The caller's stream ended. -/
  | finished
  /-- The backend stopped taking frames. -/
  | refused
  /-- The abort was cancelled. -/
  | cancelled
  /-- The caller's stream failed. -/
  | failed
  deriving DecidableEq, Repr

/-- Where the request loop stands. -/
inductive RequestLoopAt where
  /-- Not started. -/
  | idle
  /-- Waiting for the next item. -/
  | reading
  /-- Waiting for room for a frame. -/
  | holding (f : Frame)
  /-- About to record why the stream failed. -/
  | recording (s : Status)
  /-- About to give the signal. -/
  | signalling
  | returned (why : RequestLoopEnd)
  deriving DecidableEq

/-- The request loop with its source and its channel. -/
structure RequestLoop where
  position : RequestLoopAt
  source : Source
  sink : Channel Frame

namespace RequestLoop

/-- A loop that has not been started. -/
def idle (source : Source) (capacity : Nat) : RequestLoop :=
  ⟨.idle, source, .ofCapacity capacity⟩

/-- Starts the loop. -/
def start (u : RequestLoop) : RequestLoop := { u with position := .reading }

def hasReturned (u : RequestLoop) : Bool :=
  match u.position with
  | .returned _ => true
  | _ => false

/-- Whether the source is still there to be fed: nobody has given it up. -/
def listens (u : RequestLoop) : Bool := !u.hasReturned && !u.source.ended

/-- The loop returns and closes its channel. -/
def leave (u : RequestLoop) (why : RequestLoopEnd) : RequestLoop :=
  { u with position := .returned why, sink := u.sink.closeSender }

/-- The branches of the loop. -/
inductive Move where
  /-- The abort is cancelled. -/
  | quit
  /-- The channel's receiver has left. -/
  | refuse
  /-- The next item is read. -/
  | read
  /-- The held frame goes into the channel. -/
  | send
  /-- The reason of a failure is recorded. -/
  | record
  /-- The signal after a failure is given. -/
  | signal
  deriving DecidableEq, Repr

namespace Move

/-- All branches, in the order in which a scheduler without choice tries them. -/
def all : List Move := [quit, refuse, read, send, record, signal]

end Move

/-- What reading an item makes of the loop. -/
def onRead (u : RequestLoop) : Reads → RequestLoop
  | .item (.frame f) => { u with position := .holding f }
  | .item (.failure s) => { u with position := .recording s }
  | .ended => u.leave .finished

/-- Runs one branch, given whether the scope of the call is cancelled. -/
def step? (scope : Bool) (u : RequestLoop) (a : Abort) : Move → Option (RequestLoop × Abort)
  | .quit =>
    match u.position with
    | .reading | .holding _ => if a.isCancelled scope then some (u.leave .cancelled, a) else none
    | _ => none
  | .refuse =>
    match u.position with
    | .holding _ => if u.sink.receiverOpen then none else some (u.leave .refused, a)
    | _ => none
  | .read =>
    match u.position with
    | .reading => u.source.next?.map fun r => ({ u with source := r.2 }.onRead r.1, a)
    | _ => none
  | .send =>
    match u.position with
    | .holding f =>
      if u.sink.receiverOpen && u.sink.hasRoom then
        some ({ u with position := .reading, sink := u.sink.put f }, a)
      else none
    | _ => none
  | .record =>
    match u.position with
    | .recording s => some ({ u with position := .signalling }, a.record s)
    | _ => none
  | .signal =>
    match u.position with
    | .signalling => some (u.leave .failed, a.signal)
    | _ => none

end RequestLoop

end GrpcRelay
