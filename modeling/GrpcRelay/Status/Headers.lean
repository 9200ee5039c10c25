/-
  A status in headers — `grpc-status` holds the code, `grpc-message` the
  percent-encoded message, `grpc-status-details-bin` the details, and the
  other headers are the metadata.

  * `Status.addTo` writes a status into headers and `Status.ofHeaders?` reads
    one back;
  * `Status.ofEnd` is the verdict on a response that has ended: its trailers
    decide, and where they hold no status the HTTP status does.
-/
import GrpcRelay.Metadata.Transport
import GrpcRelay.Status
import GrpcRelay.Text.Percent
import GrpcRelay.Text.Utf8

namespace GrpcRelay.Status

def codeKey : String := "grpc-status"
def messageKey : String := "grpc-message"
def detailsKey : String := "grpc-status-details-bin"

/-- The message of a header, or why it is no text. -/
def decodeMessage (s : String) : Except Text.Utf8Fault String :=
  Text.decodeUtf8 (Text.percentDecode s.toUTF8.toList)

/-- A message as the text of a header. -/
def encodeMessage (s : String) : String :=
  String.ofList (Text.percentEncode s.toUTF8.toList)

/-- The status that headers hold, if they hold one. -/
def ofHeaders? (headers : Metadata) : Option Status :=
  (headers.firstText? codeKey).map fun code =>
    let details := match headers.first? detailsKey with
      | some (.binary b) => b
      | _ => .empty
    let metadata := headers.eraseAll [codeKey, messageKey, detailsKey]
    match decodeMessage ((headers.firstText? messageKey).getD "") with
    | .ok message => ⟨Code.ofText code, message, metadata, details⟩
    | .error fault =>
      let message := "Error deserializing status message header: " ++ fault.message
      ⟨.unknown, message, metadata, details⟩

/-- The headers with the status written over them. -/
def addTo (s : Status) (headers : Metadata) : Metadata :=
  let h := (headers.override s.metadata.sanitize).insert codeKey (.text s.code.text)
  let h := if s.message = "" then h else h.insert messageKey (.text (encodeMessage s.message))
  if s.details.size = 0 then h else h.insert detailsKey (.binary s.details)

/-- The status alone as headers. -/
def toHeaders (s : Status) : Metadata := s.addTo {}

/-- The status that a reader of its headers sees. -/
def overHeaders (s : Status) : Status := (ofHeaders? s.toHeaders).getD s

/-- The status that an HTTP status stands for where no other is given. -/
def ofHttp (http : Nat) : Status :=
  if http = 200 then
    of .unknown ("protocol error: missing grpc-status trailer, stream was terminated without a " ++
      "final status (possible truncation by a proxy or load balancer)")
  else
    let code : Code :=
      match http with
      | 400 => .internal
      | 401 => .unauthenticated
      | 403 => .permissionDenied
      | 404 => .unimplemented
      | 429 | 502 | 503 | 504 => .unavailable
      | _ => .unknown
    of code s!"grpc-status header missing, mapped from HTTP status code {http}"

/-- Why a response that has ended is a failure, if it is one. -/
def ofEnd (http : Nat) (trailers : Option Metadata) : Option Status :=
  match trailers.bind ofHeaders? with
  | some s => if s.code = .ok then none else some s
  | none => some (ofHttp http)

end GrpcRelay.Status
