/-
  Metadata under HTTP/2 — what becomes of headers that HTTP/2 does not allow.

  A connection drops the headers of a connection, and those that a
  `connection` header in plain ASCII names, from the headers of requests and
  responses; a response loses `te` as well.  Trailers are not mended: with a header that is
  not allowed they are not sent at all.
-/
import GrpcRelay.Metadata.Length
import GrpcRelay.Metadata.Transport
import GrpcRelay.Text.Blank
import GrpcRelay.Text.Cut

namespace GrpcRelay.Metadata

/-- The headers that the first `connection` header names, if it is plain ASCII. -/
def namedByConnection (m : Metadata) : List String :=
  match m.firstText? "connection" with
  | none => []
  | some s =>
    if MetadataValue.isVisible s then
      (Text.pieces ',' s.toList).map fun name => String.ofList (Text.lowerText (Text.trim name))
    else []

/-- The map without the headers that HTTP/2 does not know. -/
def withoutConnection (m : Metadata) : Metadata :=
  m.eraseAll (connectionKeys ++ m.namedByConnection)

/-- The headers of a response as they are sent. -/
def onResponse (m : Metadata) : Metadata := (m.erase "te").withoutConnection

/-- Whether trailers can be sent. -/
def canTrail (m : Metadata) : Bool :=
  !connectionKeys.any m.contains &&
    match m.first? "te" with
    | none => true
    | some v => v == .text "trailers"

/-- The size of the headers of a request with this path as the backend takes them, with the
    method, the scheme, the authority and the headers that the sender writes, which take 294
    bytes in all. -/
def requestSize (m : Metadata) (path : String) : Nat :=
  m.listSize + fieldSize 5 path.utf8ByteSize + 294

/-- The size of the headers of a response as the proxy takes them, with the status, the content
    type and the date, which take 167 bytes in all. -/
def responseSize (m : Metadata) : Nat := m.listSize + 167

end GrpcRelay.Metadata
