/-
  The response loop — carries the backend's frames to the caller and comes
  to the outcome of the call.

  The loop reads a frame, puts it into its channel and reads the next.  It
  ends

  * with the backend's stream: the trailers, without transport headers, are
    handed on as a status of code `ok` if any are left, and the call has
    succeeded;
  * with a failure of the backend's stream or of its trailers, which is
    recorded as the reason of the abort and handed on;
  * with the reason of the abort when that is cancelled, which is handed on;
  * with `cancelled` when the caller has left, which is recorded.

  A status that is handed on waits for room in the channel, or for the
  receiver to leave.  `ResponseLoop.step?` runs one branch of the loop.
-/
import GrpcRelay.Abort
import GrpcRelay.Channel
import GrpcRelay.Metadata.Transport
import GrpcRelay.Relay.Source

namespace GrpcRelay

/-- The outcome of a call. -/
abbrev Outcome := Except Status Unit

/-- Where the response loop stands. -/
inductive ResponseLoopAt where
  /-- Not started. -/
  | idle
  /-- Waiting for the next item. -/
  | reading
  /-- Waiting for room for a frame. -/
  | holding (f : Frame)
  /-- The stream has ended and its trailers come next. -/
  | fetching
  /-- About to record a reason, which is handed on afterwards if `tell`. -/
  | recording (s : Status) (tell : Bool)
  /-- About to give the signal. -/
  | signalling (s : Status) (tell : Bool)
  /-- Waiting to hand on a status; the outcome is settled. -/
  | delivering (s : Status) (outcome : Outcome)
  | returned (outcome : Outcome)

/-- The response loop with its source and its channel. -/
structure ResponseLoop where
  position : ResponseLoopAt
  source : Source
  sink : Channel Item

namespace ResponseLoop

/-- What a caller's own departure reads as. -/
def callerGone : Status := .of .cancelled "caller cancelled the call"

/-- A loop that has not been started. -/
def idle (source : Source) (capacity : Nat) : ResponseLoop :=
  ⟨.idle, source, .ofCapacity capacity⟩

/-- Starts the loop. -/
def start (d : ResponseLoop) : ResponseLoop := { d with position := .reading }

/-- The outcome of a loop that has returned. -/
def outcome? (d : ResponseLoop) : Option Outcome :=
  match d.position with
  | .returned o => some o
  | _ => none

def hasReturned (d : ResponseLoop) : Bool := d.outcome?.isSome

/-- Whether the source is still there to be fed: nobody has given it up. -/
def listens (d : ResponseLoop) : Bool := !d.hasReturned && !d.source.ended

/-- The loop returns and closes its channel. -/
def leave (d : ResponseLoop) (outcome : Outcome) : ResponseLoop :=
  { d with position := .returned outcome, sink := d.sink.closeSender }

/-- The branches of the loop. -/
inductive Move where
  /-- The abort is cancelled. -/
  | quit
  /-- The caller has left. -/
  | desert
  /-- The next item is read. -/
  | read
  /-- The held frame goes into the channel. -/
  | send
  /-- The trailers are taken. -/
  | fetch
  /-- A reason is recorded. -/
  | record
  /-- The signal after a failure is given. -/
  | signal
  /-- The final status goes into the channel. -/
  | deliver
  /-- The final status is of no use to a caller that has left. -/
  | drop
  deriving DecidableEq, Repr

namespace Move

/-- All branches, in the order in which a scheduler without choice tries them. -/
def all : List Move := [quit, desert, read, send, fetch, record, signal, deliver, drop]

end Move

/-- What reading an item makes of the loop. -/
def onRead (d : ResponseLoop) : Reads → ResponseLoop
  | .item (.frame f) => { d with position := .holding f }
  | .item (.failure s) => { d with position := .recording s true }
  | .ended => { d with position := .fetching }

/-- What the trailers make of the loop. -/
def onTrailers (d : ResponseLoop) : Trailers → ResponseLoop
  | .error s => { d with position := .recording s true }
  | .ok none => d.leave (.ok ())
  | .ok (some trailers) =>
    if trailers.strip.isEmpty then d.leave (.ok ())
    else { d with position := .delivering (.okWith trailers.strip) (.ok ()) }

/-- Runs one branch, given whether the scope of the call is cancelled. -/
def step? (scope : Bool) (d : ResponseLoop) (a : Abort) : Move → Option (ResponseLoop × Abort)
  | .quit =>
    match d.position with
    | .reading | .holding _ =>
      if a.isCancelled scope then
        some ({ d with position := .delivering a.reason (.error a.reason) }, a)
      else none
    | _ => none
  | .desert =>
    match d.position with
    | .reading | .holding _ =>
      if d.sink.receiverOpen then none
      else some ({ d with position := .recording callerGone false }, a)
    | _ => none
  | .read =>
    match d.position with
    | .reading => d.source.next?.map fun r => ({ d with source := r.2 }.onRead r.1, a)
    | _ => none
  | .send =>
    match d.position with
    | .holding f =>
      if d.sink.receiverOpen && d.sink.hasRoom then
        some ({ d with position := .reading, sink := d.sink.put (.frame f) }, a)
      else none
    | _ => none
  | .fetch =>
    match d.position with
    | .fetching => some (d.onTrailers d.source.trailers, a)
    | _ => none
  | .record =>
    match d.position with
    | .recording s tell => some ({ d with position := .signalling s tell }, a.record s)
    | _ => none
  | .signal =>
    match d.position with
    | .signalling s tell =>
      if tell then some ({ d with position := .delivering s (.error s) }, a.signal)
      else some (d.leave (.error s), a.signal)
    | _ => none
  | .deliver =>
    match d.position with
    | .delivering s o =>
      if d.sink.receiverOpen && d.sink.hasRoom then
        some ({ d with sink := d.sink.put (.failure s) }.leave o, a)
      else none
    | _ => none
  | .drop =>
    match d.position with
    | .delivering _ o => if d.sink.receiverOpen then none else some (d.leave o, a)
    | _ => none

end ResponseLoop

end GrpcRelay
