/-
  Events of a call — what the caller and the backend do to it, one thing at a
  time.

  `Call.on` carries out an event where it can happen, and changes nothing
  where it cannot: a caller cannot send what the proxy reads no more, and a
  backend cannot add to a response that it has not begun or that the proxy has
  given up.  The connection lets a request go on frame by frame, and may break
  down under it.
-/
import GrpcRelay.Call.BackendLeg
import GrpcRelay.Call.CallerLeg

namespace GrpcRelay

/-- What can happen to a call from outside. -/
inductive CallEvent where
  /-- The caller sends bytes of its body. -/
  | send (bytes : ByteArray)
  /-- The caller's body ends. -/
  | halfClose
  /-- The caller's body fails. -/
  | fail (s : Status)
  /-- The caller leaves. -/
  | leave
  /-- The caller takes the next item of its response. -/
  | hear
  /-- The request comes to the backend. -/
  | reach
  /-- The connection can take the next frame of the request. -/
  | ready
  /-- Opening the stream fails. -/
  | failOpening (s : Status)
  /-- The request is refused before it comes to the backend, with the headers of an answer. -/
  | turnAway
  /-- The backend answers with headers. -/
  | respondHeaders (http : Nat) (headers : Metadata)
  /-- The backend sends bytes of its body. -/
  | respond (bytes : ByteArray)
  /-- The backend's body ends, with these trailers. -/
  | respondEnd (trailers : Option Metadata)
  /-- The backend's body is left without an end. -/
  | respondNoMore
  /-- The backend resets the stream. -/
  | reset
  /-- The headers that the backend sends are too long. -/
  | refuseHeaders
  /-- The trailers that end the backend's body are too long. -/
  | refuseTrailers
  /-- The connection breaks down. -/
  | breakDown

namespace Call

/-- Whether the request has still to come to its backend. -/
def awaitsReach (c : Call) : Bool :=
  match c.stage with
  | .opening => !c.left && c.response.result.isNone && !c.request.reached
  | _ => false

/-- Whether opening the stream can still fail. -/
def awaitsOpening (c : Call) : Bool := c.awaitsReach || c.awaitsAnswer

/-- Whether the stream to the backend is open in either direction. -/
def hasStream (c : Call) : Bool := c.awaitsAnswer || c.listensToBackend || c.request.isLive

/-- The request is turned away: its stream is lost behind the headers of the answer. -/
def turnAway (config : Config) (c : Call) : Call :=
  (c.respondHeaders config 431 {}).breakStream .reset

/-- Carries out an event. -/
def on (config : Config) (c : Call) : CallEvent → Call
  | .send bytes => if c.listensToCaller then c.receive bytes else c
  | .halfClose => if c.listensToCaller then c.receiveEnd else c
  | .fail s => if c.listensToCaller then c.receiveFault s else c
  | .leave => c.leave
  | .hear => if c.down.sink.receiverOpen then (c.hear config).2 else c
  | .reach =>
    if c.awaitsReach then { c with request := { c.request with reached := true } } else c
  | .ready =>
    if c.request.isLive then { c with request := { c.request with ready := true } } else c
  | .failOpening s => if c.awaitsOpening then (c.failOpening s).cancelRequest else c
  | .turnAway => if c.awaitsReach then c.turnAway config else c
  | .respondHeaders http headers =>
    if c.awaitsAnswer then c.respondHeaders config http headers else c
  | .respond bytes => if c.listensToBackend then c.respond bytes else c
  | .respondEnd trailers => if c.listensToBackend then c.respondEnd trailers else c
  | .respondNoMore => if c.listensToBackend then c.respondNoMore else c
  | .reset => if c.listensToBackend || c.isInterim then c.breakStream .reset else c
  | .refuseHeaders => if c.awaitsAnswer then c.breakStream .reset else c
  | .refuseTrailers => if c.listensToBackend then c.rejectEnd else c
  | .breakDown => if c.hasStream then c.breakStream .breakdown else c

end Call

end GrpcRelay
