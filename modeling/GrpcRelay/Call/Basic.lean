/-
  Calls — the state of one proxied call: how far its handler has come, the
  two loops, and the legs to the caller and to the backend.

  The handler of a call reads its path, consults the director, tracks the call
  and opens a stream to the backend while the request loop already runs.
  Once the backend has answered, the response loop runs and comes to the
  outcome.  Whatever happens after a call was tracked, its guard is released
  in the three steps of `Release`.

  The leg to the caller (`Call/CallerLeg`) feeds the request loop and empties
  the channel of the response loop; the leg to the backend
  (`Call/BackendLeg`) does the same the other way round.
-/
import GrpcRelay.Call.Legs
import GrpcRelay.Call.Target
import GrpcRelay.Registry
import GrpcRelay.Relay.Inflow
import GrpcRelay.Relay.RequestLoop
import GrpcRelay.Relay.ResponseLoop
import GrpcRelay.Route
import GrpcRelay.Status.Encoding

namespace GrpcRelay

/-- A request as it arrives. -/
structure Arrival where
  path : String
  authority : Option String
  metadata : Metadata
  peer : Option SocketAddress

/-- How a call came to its end. -/
inductive Ending where
  /-- The call was refused before it was tracked. -/
  | rejected (s : Status)
  /-- The caller left before the call was tracked. -/
  | forsaken
  /-- The call was tracked and refused before the backend's stream was open. -/
  | refused (s : Status)
  /-- The call was tracked, and the caller left before it was answered. -/
  | abandoned
  /-- The call was relayed to an outcome. -/
  | relayed (outcome : Outcome)

/-- What the completion callback is told of an ending, `none` for success. -/
def Ending.error? : Ending → Option Status
  | rejected s | refused s => some s
  | forsaken | abandoned => some Guard.abandoned
  | relayed (.error s) => some s
  | relayed (.ok _) => none

/-- How far the handler of a call has come. -/
inductive Stage where
  /-- The path has not been looked at. -/
  | arriving
  /-- The director is being asked. -/
  | resolving
  /-- There is a route, and the call is not tracked yet. -/
  | routed
  /-- The call is tracked, and the route's method has not been looked at. -/
  | tracked
  /-- The backend's stream is being opened. -/
  | opening
  /-- Opening failed: the reason is about to be recorded, then the signal given, then the request
      loop awaited. -/
  | recording (s : Status)
  | signalling (s : Status)
  | joining (s : Status)
  /-- The caller has its answer and the response loop runs. -/
  | relaying
  /-- The response loop has returned: the request loop is about to be stopped, then awaited. -/
  | closing (outcome : Outcome)
  | awaiting (outcome : Outcome)
  /-- The guard is being released. -/
  | releasing (ending : Ending) (step : Release)
  | over (ending : Ending)

/-- What a caller is answered. -/
inductive Answer where
  /-- The response is this status and nothing else. -/
  | refused (s : Status)
  /-- The response is open, with these headers. -/
  | opened (headers : Metadata)

/-- What a caller reads from its response. -/
inductive Heard where
  | frame (f : Frame)
  /-- The response has ended well, with these trailers. -/
  | finished (trailers : Metadata)
  /-- The response has ended with a status. -/
  | failed (s : Status)
  | pending

/-- One proxied call. -/
structure Call where
  arrival : Arrival
  stage : Stage
  /-- Whether the caller has left before it was answered. -/
  left : Bool
  context : Option CallContext
  /-- The director's route, with the scope that was made for it if it named none. -/
  route : Option (Route String Unit)
  guard : Option Guard
  abort : Abort
  /-- Reads the body of the request until it has failed or ended. -/
  inbound : Option Decoder
  up : RequestLoop
  request : RequestLeg
  response : ResponseLeg
  down : ResponseLoop
  answer : Option Answer
  /-- What the caller has read from its response, in order. -/
  heard : List Heard

namespace Call

/-- The capacity of the channels between the loops and the legs. -/
def capacity : Nat := 1

/-- A call that has just arrived. -/
def ofArrival (config : Config) (a : Arrival) : Call :=
  { arrival := a
    stage := .arriving
    left := false
    context := none
    route := none
    guard := none
    abort := .fresh
    inbound := some (.start .request config.maxDecoding)
    up := .idle .empty capacity
    request := .unsent
    response := .unanswered
    down := .idle .empty capacity
    answer := none
    heard := [] }

/-- The scope that the call runs in, once there is a route. -/
def scope? (c : Call) : Option ScopeId := c.route.bind Route.scope

/-- Whether the call has come to its end. -/
def isOver (c : Call) : Bool :=
  match c.stage with
  | .over _ => true
  | _ => false

/-- Whether the proxy still holds the body of the request. -/
def listensToCaller (c : Call) : Bool :=
  !c.up.hasReturned && !(c.isOver && c.up.position == .idle)

/-- Whether the call waits for the backend to answer the request. -/
def awaitsAnswer (c : Call) : Bool :=
  match c.stage with
  | .opening => !c.left && c.request.reached && c.response.result.isNone && c.request.lost.isNone
  | _ => false

/-- Whether the backend can answer the request. -/
def canAnswer (c : Call) : Bool := c.awaitsAnswer && !c.response.interim

/-- Whether the backend takes its interim headers for the beginning of a response. -/
def isInterim (c : Call) : Bool := c.awaitsAnswer && c.response.interim

/-- Whether the proxy still reads the backend's body. -/
def listensToBackend (c : Call) : Bool := c.response.live && c.down.listens

end Call

end GrpcRelay
