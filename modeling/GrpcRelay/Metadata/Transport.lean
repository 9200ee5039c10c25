/-
  Transport headers — the metadata keys that belong to one leg of a call and
  must not pass to the other, and the metadata that a call carries on.

  * `strip` drops the seven keys that each leg writes for itself;
  * `sanitize` drops the keys that the framing of a leg reserves when metadata
    is written out;
  * `propagate` is what a call carries to the next hop: its metadata without
    transport headers, and one more `x-forwarded-for` entry if the peer is
    known.
-/
import GrpcRelay.Metadata
import GrpcRelay.Net.SocketAddress

namespace GrpcRelay.Metadata

/-- The key with the chain of caller addresses, one entry a hop. -/
def forwardedFor : String := "x-forwarded-for"

/-- The headers that belong to the framing of one leg. -/
def transportKeys : List String :=
  ["te", "content-type", "grpc-encoding", "grpc-accept-encoding", "grpc-status", "grpc-message",
    "grpc-status-details-bin"]

/-- The headers that a leg writes itself and takes out of metadata to be sent. -/
def reservedKeys : List String :=
  ["te", "content-type", "grpc-message", "grpc-message-type", "grpc-status"]

/-- The headers of a connection, which HTTP/2 does not know. -/
def connectionKeys : List String :=
  ["connection", "keep-alive", "proxy-connection", "transfer-encoding", "upgrade"]

/-- The map without transport headers. -/
def strip (m : Metadata) : Metadata := m.eraseAll transportKeys

/-- The map without reserved headers. -/
def sanitize (m : Metadata) : Metadata := m.eraseAll reservedKeys

/-- A text as a value, if it is a legal one. -/
def textValue? (s : String) : Option MetadataValue :=
  if isTextValue s then some (.text s) else none

/-- The entry for a peer: the text of its canonical address, without port and scope. -/
def forwardedValue? (peer : SocketAddress) : Option MetadataValue :=
  textValue? peer.ip.canonical.text

/-- The metadata that goes to the next hop. -/
def propagate (m : Metadata) (peer : Option SocketAddress) : Metadata :=
  match peer.bind forwardedValue? with
  | some value => m.strip.append forwardedFor value
  | none => m.strip

end GrpcRelay.Metadata
