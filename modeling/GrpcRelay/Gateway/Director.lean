/-
  The gateway's director — sends a call to the backend of the host that it
  addresses.

  A call to a service with a blocked prefix is refused whatever its host.  A
  host is compared in ASCII lower case; of several entries for one host the
  last counts; a call without an entry goes to the default backend or is
  refused.
-/
import GrpcRelay.CallContext
import GrpcRelay.Gateway.Settings
import GrpcRelay.Router
import GrpcRelay.Route
import GrpcRelay.Uri

namespace GrpcRelay.Gateway

open Text

/-- A backend whose URI is refused. -/
structure BackendError where
  uri : String
  cause : UriError
  deriving DecidableEq, Repr

/-- The wording of an error: what went wrong, and the causes below it. -/
def BackendError.chain (e : BackendError) : List String :=
  [s!"invalid backend uri '{e.uri}'", "invalid URI", e.cause.message]

/-- Where calls go: the URI of each host, the default and the blocked prefixes. -/
structure Director where
  backends : List (String × String)
  defaultBackend : Option String
  blockedPrefixes : List String
  deriving DecidableEq, Repr

namespace Director

/-- What the address of a local socket begins with; any such text is an address. -/
def localScheme : List Char := ['u', 'n', 'i', 'x', ':']

/-- Checks the URI of a backend. -/
def checkUri (uri : String) : Except BackendError Unit :=
  if (after? localScheme uri.toList).isSome then .ok ()
  else
    match Uri.parse uri with
    | .ok _ => .ok ()
    | .error e => .error ⟨uri, e⟩

/-- Checks the URIs in order up to the first bad one. -/
def checkAll : List String → Except BackendError Unit
  | [] => .ok ()
  | uri :: r =>
    match checkUri uri with
    | .error e => .error e
    | .ok _ => checkAll r

/-- The director for settings; the backends are checked in order and the default last. -/
def ofSettings (s : Settings) : Except BackendError Director :=
  match checkAll (s.backends.map Prod.snd ++ s.defaultBackend.toList) with
  | .error e => .error e
  | .ok _ => .ok ⟨s.backends, s.defaultBackend, s.blockedPrefixes⟩

/-- Whether the service of a call is blocked. -/
def isBlocked (d : Director) (c : CallContext) : Bool :=
  d.blockedPrefixes.any fun p => (after? p.toList c.method.service.toList).isSome

/-- The backend of a host: its last entry. -/
def backendOf? (d : Director) (host : String) : Option String :=
  (d.backends.reverse.find? fun b => b.1 == lowerString host).map Prod.snd

/-- The backend of a call. -/
def select? (d : Director) (c : CallContext) : Option String :=
  (c.host?.bind d.backendOf?).or d.defaultBackend

/-- Decides on a call. -/
def connect (d : Director) (c : CallContext) : Except Status (Route String Unit) :=
  if d.isBlocked c then .error Router.unknownMethod
  else
    match d.select? c with
    | none => .error Router.unknownMethod
    | some backend => .ok (.toBackend backend)

end Director

end GrpcRelay.Gateway
