/-
  The leg to the backend — delivers the frames from the channel of the request
  loop, and reads the body of the response for the response loop.

  The headers of a response can refuse the call, or settle its outcome before
  the body comes; interim headers, with an HTTP status below 200, do nothing.
  A frame over the limit resets the stream, which fails the opening or the
  body, and so does a body that is longer or shorter than it was declared.

  The request is cancelled when the call is given up before it is answered,
  unless it has just failed and the connection takes what is left of it.  When
  the response is given up before its end, the frame that the connection
  carries is still sent, and nothing after it.
-/
import GrpcRelay.Call.Basic

namespace GrpcRelay.Call

/-! ## Losing the stream -/

/-- Opening the stream fails. -/
def failOpening (c : Call) (s : Status) : Call := { c with response := .failed s }

/-- The backend's body fails. -/
def respondFault (c : Call) (s : Status) : Call :=
  { c with
    response := { c.response with decoder := none, live := false }
    down := { c.down with source := c.down.source.fault c.response.decoder s } }

/-- The request's frames are taken no more. -/
def stopTaking (c : Call) : Call := { c with up := { c.up with sink := c.up.sink.closeReceiver } }

/-- The stream is lost: what waits for the backend is lost with it, and the response fails if it
    has begun, or else the opening. -/
def breakStream (c : Call) (l : Loss) : Call :=
  let c := { c.stopTaking with request := { c.request with lost := some l } }
  match c.response.result with
  | none => c.failOpening Loss.onOpening
  | some _ => c.respondFault Loss.onResponse

/-- The proxy finds fault with the end of a response, which resets the stream unless the request
    has ended as well. -/
def rejectEnd (c : Call) : Call :=
  if c.request.ended then c.respondFault Loss.onResponse else c.breakStream .reset

/-- The request is cancelled. -/
def cancelRequest (c : Call) : Call :=
  { c.stopTaking with request := { c.request with ended := true, cancelled := true } }

/-- Whether the request comes to its end by itself: the request loop has failed, and the
    connection takes what is in the channel. -/
def runsOut (c : Call) : Bool := c.up.position == .returned .failed && c.request.ready

/-- The call is given up before it is answered. -/
def giveUpOpening (c : Call) : Call := if c.runsOut then c else c.cancelRequest

/-- The response is given up; if the backend has not ended it, the request stops as well. -/
def giveUpResponse (c : Call) : Call := if c.response.live then c.stopTaking else c

/-! ## The response -/

/-- What comes of the headers of a response: an encoding that is not known and a status other than
    `ok` are failures; a status of `ok` settles the outcome. -/
def judgeHeaders (config : Config) (http : Nat) (headers : Metadata) : Except Status Decoder :=
  match Status.encodingError? headers with
  | some s => .error s
  | none =>
    match Status.ofHeaders? headers with
    | none => .ok (.start (.response http) config.maxDecoding)
    | some s => if s.isOk then .ok (.start .settledResponse none) else .error s

/-- Whether headers with an HTTP status are interim ones. -/
def isInterimStatus (http : Nat) : Bool := 100 ≤ http && http < 200

/-- The backend answers with headers; its body follows. -/
def respondHeaders (config : Config) (http : Nat) (headers : Metadata) (c : Call) : Call :=
  match headers.bodyLength with
  | .malformed => c.breakStream .reset
  | length =>
    if isInterimStatus http then { c with response := { c.response with interim := true } }
    else
      match judgeHeaders config http headers with
      | .error s => c.failOpening s
      | .ok d =>
        { c with response :=
          { result := some (.ok headers)
            decoder := some d
            live := true
            interim := false
            remaining := length.bytes? } }

/-- The unit in which a body is carried, in bytes. -/
def dataSize : Nat := 16384

/-- Bytes of the backend's body arrive.  Of those beyond the declared length, the whole units
    before it are taken. -/
def respond (c : Call) (bytes : ByteArray) : Call :=
  let take (bytes : ByteArray) : Call :=
    let (source, decoder) := c.down.source.feed c.response.decoder bytes
    let remaining := c.response.remaining.map (· - bytes.size)
    { c with
      response := { c.response with decoder, remaining }
      down := { c.down with source } }
  match c.response.remaining with
  | none => take bytes
  | some n =>
    if bytes.size ≤ n then take bytes
    else (take (bytes.extract 0 (n / dataSize * dataSize))).breakStream .reset

/-- The body can grow no more, though it has neither ended nor failed. -/
def respondNoMore (c : Call) : Call := { c with response := { c.response with live := false } }

/-- The backend's body ends, with these trailers; it must not fall short of its declared
    length. -/
def respondEnd (c : Call) (trailers : Option Metadata) : Call :=
  if c.response.remaining.getD 0 = 0 then
    { c with
      response := { c.response with decoder := none, live := false }
      down := { c.down with source := c.down.source.finish c.response.decoder trailers } }
  else c.rejectEnd

/-! ## The request -/

/-- Delivers the next frame of the request, or resets the stream on one over the limit or beyond
    the declared length. -/
def forward (config : Config) (c : Call) : Option Call :=
  if c.request.isLive && c.request.ready && c.up.sink.receiverOpen then
    c.up.sink.take?.map fun (f, sink) =>
      let c := { c with up := { c.up with sink } }
      if (f.encodeError? config.maxEncoding).isSome || !c.request.admits f then
        c.breakStream .reset
      else
        { c with request :=
          { c.request with delivered := c.request.delivered ++ [f], ready := false } }
  else none

/-- Ends the request once no more frames come, or once none are taken; in the first case it must
    not fall short of its declared length. -/
def finishRequest (c : Call) : Option Call :=
  if c.request.isLive && c.request.ready then
    if !c.up.sink.receiverOpen then some { c with request := { c.request with ended := true } }
    else if c.up.sink.isAtEnd then
      if c.request.isComplete then some { c with request := { c.request with ended := true } }
      else some (c.breakStream .reset)
    else none
  else none

end GrpcRelay.Call
