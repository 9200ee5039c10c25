/-
  Call contexts — what is known of a call before its stream is accepted, and
  all that a director may look at.
-/
import GrpcRelay.Metadata
import GrpcRelay.MethodPath
import GrpcRelay.Net.SocketAddress

namespace GrpcRelay

open Text

/-- What a call is about: its method, the authority that the caller addressed, its metadata and
    the caller's address. -/
structure CallContext where
  method : MethodPath
  authority : Option String
  metadata : Metadata
  peer : Option SocketAddress
  deriving DecidableEq

/-- The authority without its port: what stands between brackets if it begins with one, and what
    stands before the last colon otherwise. -/
def hostOfAuthority : List Char → Option (List Char)
  | '[' :: r => (cutFirst? ']' r).map Prod.fst
  | s =>
    match cutLast? ':' s with
    | some (host, _) => some host
    | none => some s

/-- The host that the caller addressed. -/
def CallContext.host? (c : CallContext) : Option String :=
  (c.authority.bind fun a => hostOfAuthority a.toList).map String.ofList

end GrpcRelay
