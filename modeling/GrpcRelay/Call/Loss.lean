/-
  Losses — how the stream between the proxy and a backend is lost before its
  time, and how that reads on both sides.
-/
import GrpcRelay.Status

namespace GrpcRelay

/-- How a stream is lost. -/
inductive Loss where
  /-- One side resets it. -/
  | reset
  /-- The connection breaks down. -/
  | breakdown
  deriving DecidableEq, Repr

namespace Loss

/-- The failure of a stream outside a body. -/
def streamError (code : Code) : Status := .of code "h2 protocol error: http2 error"

/-- The failure of a body that is being read. -/
def bodyError (code : Code) : Status :=
  .of code "h2 protocol error: error reading a body from connection"

/-- What the proxy sees of a stream that is lost before it is answered. -/
def onOpening : Status := streamError .internal

/-- What the proxy sees of a stream that is lost after it was answered. -/
def onResponse : Status := bodyError .internal

/-- The code that the backend sees. -/
def backendCode : Loss → Code
  | reset => .internal
  | breakdown => .unknown

/-- What the backend reads of the request, given whether it had read its end before. -/
def onRequest (l : Loss) (sawEnd : Bool) : Status :=
  if sawEnd then streamError l.backendCode else bodyError l.backendCode

end Loss

end GrpcRelay
