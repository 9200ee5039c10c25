/-
  Legs — the state of the stream between the proxy and a backend: the request
  on its way there and the response on its way back.

  The frames of a request are put on a connection one by one, each as soon as
  the connection takes it.  The declared length of a body binds both sides.
-/
import GrpcRelay.Call.Loss
import GrpcRelay.Call.Timeout
import GrpcRelay.Frame.Decoder
import GrpcRelay.Frame.Encoder
import GrpcRelay.Metadata.Http2
import GrpcRelay.Uri.PathQuery

namespace GrpcRelay

/-- The leg that carries the request to the backend. -/
structure RequestLeg where
  path : PathQuery
  metadata : Metadata
  /-- How long the backend may take to answer. -/
  timeout : Option Duration
  /-- Whether the request has come to the backend. -/
  reached : Bool
  /-- Whether the connection takes the next frame, or the end. -/
  ready : Bool
  /-- The frames that were put on the connection. -/
  delivered : List Frame
  /-- Whether no more frames come. -/
  ended : Bool
  /-- Whether the stream was cancelled: what the connection has not carried yet is dropped. -/
  cancelled : Bool
  /-- How the stream was lost, if it was. -/
  lost : Option Loss

namespace RequestLeg

/-- The request of a call that has not been launched. -/
def unsent : RequestLeg :=
  { path := ⟨[], none⟩
    metadata := {}
    timeout := none
    reached := false
    ready := false
    delivered := []
    ended := false
    cancelled := false
    lost := none }

/-- The number of bytes put on the connection. -/
def bytes (r : RequestLeg) : Nat := Frame.wireSizeAll r.delivered

/-- The number of bytes that the request declares, if it does. -/
def declared? (r : RequestLeg) : Option Nat := r.metadata.bodyLength.bytes?

/-- Whether a frame is within the declared length. -/
def admits (r : RequestLeg) (f : Frame) : Bool :=
  match r.declared? with
  | none => true
  | some n => r.bytes + f.wireSize ≤ n

/-- Whether the request may end without falling short of the declared length. -/
def isComplete (r : RequestLeg) : Bool :=
  match r.declared? with
  | none => true
  | some n => r.bytes == n

/-- The size of the headers of the request. -/
def headersSize (r : RequestLeg) : Nat := r.metadata.requestSize r.path.text

/-- Whether frames can still be put on the connection. -/
def isLive (r : RequestLeg) : Bool := r.reached && r.lost.isNone && !r.ended

end RequestLeg

/-- The leg that carries the response from the backend. -/
structure ResponseLeg where
  /-- What came of opening the stream, until the handler takes it. -/
  result : Option (Except Status Metadata)
  /-- Reads the body, once there is one and until it has failed. -/
  decoder : Option Decoder
  /-- Whether the backend can still add to the body. -/
  live : Bool
  /-- Whether the backend has sent interim headers, which answer nothing. -/
  interim : Bool
  /-- How many bytes the declared length leaves, if one is declared. -/
  remaining : Option Nat

namespace ResponseLeg

/-- The response before anything came of it, and after it was given up. -/
def unanswered : ResponseLeg := ⟨none, none, false, false, none⟩

/-- Opening the stream has failed. -/
def failed (s : Status) : ResponseLeg := { unanswered with result := some (.error s) }

end ResponseLeg

end GrpcRelay
