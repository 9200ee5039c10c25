/-
  Backends of a session — they read requests, answer with headers or a status,
  and send frames, trailers or a reset.

  The backend of a call is known by the number of its request in the order in
  which requests came to backends.
-/
import GrpcRelay.Session.Time

namespace GrpcRelay.Session

/-- The call of the request that came to a backend as number `at`. -/
def backendCall? (s : Session) (n : Nat) : Option Nat := s.service.reached[n]?

/-- Headers that the HTTP stack writes and that are not shown. -/
def stackKeys : List String := ["te", "content-type", "content-length", "user-agent", "date"]

/-- What a backend sees of call `i`: path, query and metadata. -/
def seen (s : Session) (i : Nat) : Option (String × Option String × Metadata) :=
  s.service.calls[i]?.map fun c =>
    (c.request.path.pathText, c.request.path.queryText?, c.request.metadata.eraseAll stackKeys)

/-- What a backend reads. -/
inductive BackendHeard where
  | frame (f : Frame)
  | ended
  | failed (s : Status)
  | pending

/-- The backend of call `i` reads the bytes of its next frame as far as they have come; the frame,
    if that is all of it. -/
def readBytes (s : Session) (i : Nat) (r : RequestLeg) (heard : Nat) : Option Frame × Session :=
  match s.connection.streams[i]? with
  | none => (none, s)
  | some o =>
    let stop := Frame.wireSizeAll (r.delivered.take (heard + 1))
    let connection := s.connection.readUpTo i stop (stop + 1 - o.read)
    let isWhole := (connection.streams[i]?.map fun o => o.read == stop).getD false
    (if isWhole then r.delivered[heard]? else none, { s with connection })

/-- The next event of the request for the backend of call `i`, without waiting.  The loss of the
    request is told twice. -/
def backendHearNow (s : Session) (i : Nat) : BackendHeard × Session :=
  match s.service.calls[i]?, s.plans[i]? with
  | some c, some p =>
    match s.readBytes i c.request p.heard with
    | (some f, s) => (.frame f, s.updatePlan i fun p => { p with heard := p.heard + 1 })
    | (none, s) =>
      match c.request.lost with
      | some l =>
        if p.complaints < 2 then
          (.failed (l.onRequest p.sawEnd),
            s.updatePlan i fun p => { p with complaints := p.complaints + 1 })
        else (.ended, s)
      | none =>
        if c.request.ended then (.ended, s.updatePlan i fun p => { p with sawEnd := true })
        else (.pending, s)
  | _, _ => (.pending, s)

/-- The backend of call `i` reads the next event, waiting a moment for it. -/
def backendHear (s : Session) (i : Nat) : BackendHeard × Session :=
  match s.backendHearNow i with
  | (.pending, s) => (s.settle.wait patience).backendHearNow i
  | (e, s) => (e, s.settle)

/-- The backend of call `i` reads up to the first event that is no frame. -/
def backendHearAll (s : Session) (i : Nat) : Nat → List BackendHeard × Session
  | 0 => ([], s)
  | fuel + 1 =>
    let (e, s) := s.backendHear i
    match e with
    | .frame _ =>
      let (es, s) := s.backendHearAll i fuel
      (e :: es, s)
    | _ => ([e], s)

/-- More events than a session can hold for one reader. -/
def eventBound (s : Session) : Nat :=
  s.service.calls.foldr (fun c n =>
    c.up.source.arrived.length + c.down.source.arrived.length + c.request.delivered.length + n) 8

/-- The backend of call `i` opens its response; whether it could. -/
def respondHeaders (s : Session) (i : Nat) (http : Nat) (metadata : Metadata) : Bool × Session :=
  let headers := metadata.onResponse
  s.onCall i Call.canAnswer
    (if Metadata.sizeLimit ≤ headers.responseSize then .refuseHeaders
    else .respondHeaders http headers)

/-- Whether the backend of call `i` takes its interim headers for a response. -/
def isInterim (s : Session) (i : Nat) : Bool :=
  (s.service.calls[i]?.map Call.isInterim).getD false

/-- The backend of call `i` adds bytes to its response; whether it could.  After interim headers
    they break the connection. -/
def respond (s : Session) (i : Nat) (bytes : ByteArray) : Bool × Session :=
  if s.isInterim i then (true, s.breakDown) else s.onCall i Call.listensToBackend (.respond bytes)

/-- The backend of call `i` resets the stream; whether it could. -/
def reset (s : Session) (i : Nat) : Bool × Session :=
  s.onCall i (fun c => c.listensToBackend || c.isInterim) .reset

/-- The backend of call `i` ends its response; whether it could.  Trailers that cannot be sent
    leave the response without an end.  After interim headers, trailers are read as headers with
    nothing after them, and an end without trailers breaks the connection. -/
def respondEnd (s : Session) (i : Nat) (trailers : Option Metadata) : Bool × Session :=
  if s.isInterim i then
    match trailers with
    | none => (true, s.breakDown)
    | some m =>
      if m.canTrail then
        (true, (s.on (.call i (.respondHeaders 200 m))).on (.call i (.respondEnd none)))
      else (true, s)
  else
    s.onCall i Call.listensToBackend <|
      match trailers with
      | none => .respondEnd none
      | some m =>
        if !m.canTrail then .respondNoMore
        else if Metadata.sizeLimit ≤ m.listSize then .refuseTrailers
        else .respondEnd trailers

/-- The backend of call `i` answers with a status and nothing else; whether it could. -/
def respondStatus (s : Session) (i : Nat) (http : Nat) (metadata : Metadata) (e : Status) :
    Bool × Session :=
  let (could, s) := s.respondHeaders i http (e.addTo metadata)
  (could, if could then (s.respondEnd i none).2 else s)

end GrpcRelay.Session
