/-
  Targets — the path and the metadata of the request that goes to a backend.

  A director may name another method than the caller's; it is held to the form
  of a method path and of a URI path.  A director may also supply metadata; if
  it does not, the caller's is carried on.
-/
import GrpcRelay.CallContext
import GrpcRelay.Config
import GrpcRelay.Metadata.Transport
import GrpcRelay.RouteError
import GrpcRelay.Uri.PathQuery

namespace GrpcRelay

/-- The status of a call whose director named a method that cannot be called. -/
def invalidOverride (method error : String) : Status :=
  .of .internal s!"director returned an invalid method '{method}': {error}"

/-- The path of the request for a method. -/
def backendPath (method : String) : Except Status PathQuery :=
  match MethodPath.parse method with
  | .error e => .error (invalidOverride method (RouteError.ofPath e).message)
  | .ok p =>
    match PathQuery.parse p.text with
    | .error e => .error (invalidOverride method e.message)
    | .ok path => .ok path

/-- The metadata of the request: the director's own, or what is carried on of the caller's. -/
def backendMetadata (config : Config) (context : CallContext) (own : Option Metadata) : Metadata :=
  match own with
  | some m => m
  | none => context.metadata.propagate (if config.forwardPeer then context.peer else none)

end GrpcRelay
