/-
  Callers of a session — they send requests and frames, half-close, fail or
  leave, and read their responses.
-/
import GrpcRelay.Session.Time
import GrpcRelay.Uri

namespace GrpcRelay.Session

/-- What a caller sees of the answer to its request. -/
inductive Opened where
  /-- Nothing new. -/
  | nothing
  | headers (m : Metadata)
  | refused (s : Status)

/-- The answer to a caller's request, if there is one. -/
def answer? (s : Session) (c : Caller) : Option Answer :=
  match c.call with
  | none => c.answer.map .refused
  | some i => s.service.calls[i]?.bind Call.answer

/-- A caller looks for its answer; it is seen once. -/
def opened (s : Session) (k : Nat) : Opened × Session :=
  match s.callers[k]? with
  | none => (.nothing, s)
  | some c =>
    if c.phase = .waiting then
      match s.answer? c with
      | none => (.nothing, s)
      | some (.refused e) =>
        (.refused e.overHeaders, s.updateCaller k fun c => { c with phase := .finished })
      | some (.opened h) =>
        (.headers h.sanitize, s.updateCaller k fun c => { c with phase := .reading })
    else (.nothing, s)

/-- The context that the director was shown of a caller's call. -/
def directorSaw (s : Session) (k : Nat) : Option CallContext := do
  let c ← s.callers[k]?
  let i ← c.call
  if s.service.consulted.contains i then (← s.service.calls[i]?).context else none

/-- The request of a caller whose target is this URI. -/
def arrivalOf (uri : Uri) (metadata : Metadata) (peer : Option SocketAddress) : Arrival :=
  ⟨uri.pathText, uri.authorityText?, metadata, peer⟩

/-- What a native route answers. -/
def nativeAnswer : Status := .of .alreadyExists "native"

/-- A new caller sends its request. -/
def request (s : Session) (uri : Uri) (metadata : Metadata) (peer : Option SocketAddress)
    (decision : Decision) (delay : Duration) : Session :=
  let elsewhere (e : Status) : Session :=
    { s with callers := s.callers ++ [⟨none, some e, .waiting, false⟩] }
  match s.router.dispatch uri.pathText with
  | .native => elsewhere nativeAnswer
  | .unknown => elsewhere Router.unknownMethod
  | .proxy =>
    let plan : Plan :=
      { decision
        decideAt := s.now + delay.nanos
        resolveBy := s.service.config.resolveTimeout.map fun d => s.now + d.nanos
        answerBy := none
        heard := 0
        sawEnd := false
        complaints := 0 }
    let caller : Caller := ⟨some s.service.calls.length, none, .waiting, true⟩
    { s.on (.arrive (arrivalOf uri metadata peer)) with
      plans := s.plans ++ [plan]
      callers := s.callers ++ [caller]
      connection := s.connection.addStream }

/-- Something happens to the body of a caller that is still sending; whether it could. -/
def onBody (s : Session) (k : Nat) (e : CallEvent) : Bool × Session :=
  match s.callers[k]? with
  | some ⟨some i, _, _, true⟩ => s.onCall i Call.listensToCaller e
  | _ => (false, s)

/-- A caller sends bytes; whether they could be sent. -/
def send (s : Session) (k : Nat) (bytes : ByteArray) : Bool × Session := s.onBody k (.send bytes)

/-- A caller sends no more. -/
def stopSending (s : Session) (k : Nat) : Session :=
  s.updateCaller k fun c => { c with sending := false }

/-- A caller's request body fails; whether it could.  The caller may go on sending, to no effect,
    until the proxy notices. -/
def fail (s : Session) (k : Nat) (e : Status) : Bool × Session := s.onBody k (.fail e)

/-- A caller half-closes its request. -/
def halfClose (s : Session) (k : Nat) : Session := (s.onBody k .halfClose).2.stopSending k

/-- A caller leaves. -/
def cancel (s : Session) (k : Nat) : Session :=
  let left := (s.stopSending k).updateCaller k fun c => { c with phase := .finished }
  match s.callers[k]? with
  | some ⟨some i, _, _, _⟩ => left.on (.call i .leave)
  | _ => left

/-- What a caller hears. -/
inductive CallerHeard where
  | event (e : Heard)
  /-- The answer was not seen yet. -/
  | notOpen
  /-- The response was over before. -/
  | finished

/-- A caller reads the next event of its response without waiting. -/
def hearNow (s : Session) (k : Nat) : CallerHeard × Session :=
  match s.callers[k]? with
  | none => (.notOpen, s)
  | some c =>
    match c.phase, c.call.bind (s.service.calls[·]?), c.call with
    | .waiting, _, _ => (.notOpen, s)
    | .reading, some call, some i =>
      let e := (call.hear s.service.config).1
      let s := s.on (.call i .hear)
      (.event e, if e.goesOn then s else s.updateCaller k fun c => { c with phase := .finished })
    | _, _, _ => (.finished, s)

/-- A caller reads the next event of its response, waiting a moment for it. -/
def hear (s : Session) (k : Nat) : CallerHeard × Session :=
  match s.hearNow k with
  | (.event .pending, s) =>
    let (e, s) := (s.wait patience).hearNow k
    (e, s.settle)
  | (e, s) => (e, s.settle)

/-- A caller reads up to the first event that is no frame, at most `fuel` events. -/
def hearAll (s : Session) (k : Nat) : Nat → List CallerHeard × Session
  | 0 => ([], s)
  | fuel + 1 =>
    let (e, s) := s.hear k
    match e with
    | .event (.frame _) =>
      let (es, s) := s.hearAll k fuel
      (e :: es, s)
    | _ => ([e], s)

end GrpcRelay.Session
