/-
  Scripts — what the director, the backends and the callers of a session do.
-/
import GrpcRelay.Duration
import GrpcRelay.Metadata
import GrpcRelay.Status

namespace GrpcRelay

/-- How a backend takes a connection. -/
inductive Reach where
  | up
  /-- Connecting fails. -/
  | down
  /-- Connecting never comes to an end. -/
  | hang
  deriving DecidableEq, Repr

/-- The name of a backend in a route. -/
def Reach.name : Reach → String
  | .up => "up"
  | .down => "down"
  | .hang => "hang"

/-- What the director says to a call. -/
inductive Decision where
  | reject (s : Status)
  | route (method : Option String) (metadata : Option Metadata) (scope : Option String)
      (onDone : Bool) (backend : Reach)

/-- What the director does with a call, and the timers of the call. -/
structure Plan where
  decision : Decision
  /-- When the director decides. -/
  decideAt : Nat
  /-- When the time of the director is over. -/
  resolveBy : Option Nat
  /-- When the time of the backend to answer is over. -/
  answerBy : Option Nat
  /-- How many frames the backend has read. -/
  heard : Nat
  /-- Whether the backend has read the end of the request. -/
  sawEnd : Bool
  /-- How often the backend was told that the request is lost. -/
  complaints : Nat

/-- How a backend takes the connection of a plan. -/
def Plan.reach (p : Plan) : Reach :=
  match p.decision with
  | .route _ _ _ _ backend => backend
  | .reject _ => .hang

/-- How far a caller has come with its response. -/
inductive CallerPhase where
  /-- The answer was not seen yet. -/
  | waiting
  /-- The response is being read. -/
  | reading
  /-- The response has ended, was refused or was given up. -/
  | finished
  deriving DecidableEq, Repr

/-- A caller. -/
structure Caller where
  /-- The call of the service, if the request came to the proxy. -/
  call : Option Nat
  /-- The answer of a request that did not. -/
  answer : Option Status
  phase : CallerPhase
  /-- Whether the caller may still send. -/
  sending : Bool

end GrpcRelay
