/-
  Reactions — what happens to a call of a session by itself: the director
  decides or runs out of time, the request comes to its backend or fails to,
  the backend runs out of time, and the connection carries the frames of the
  request.
-/
import GrpcRelay.Session.Basic

namespace GrpcRelay.Session

/-! ## The director, the doors of the backends and the timers -/

/-- The director decides on call `i` as planned; a named scope is made on first use. -/
def decide (s : Session) (i : Nat) : Decision → Session
  | .reject e => s.on (.decide i (.error e))
  | .route method metadata scope onDone backend =>
    let (scopes, id) := match scope with
      | none => (s.scopes, none)
      | some name =>
        let (scopes, id) := s.scopes.ensure name
        (scopes, some id)
    let route : Route String Unit :=
      ⟨backend.name, method, metadata, id, if onDone then some () else none⟩
    (s.withScopes scopes).on (.decide i (.ok route))

/-- What a caller is told whose backend cannot be connected to. -/
def connectionRefused : Status := .of .unavailable "connection refused"

/-- What a caller is told whose backend took too long to answer. -/
def timeoutExpired : Status := .of .cancelled "Timeout expired"

/-- Whether a timer has run out. -/
def isDue (s : Session) (t : Option Nat) : Bool :=
  match t with
  | some t => t ≤ s.now
  | none => false

/-- What comes of the request of call `i` at its backend.  One whose headers cannot be read or are
    too long does not come there. -/
def deliver (s : Session) (i : Nat) (r : RequestLeg) : Session :=
  if r.metadata.bodyLength = .malformed then
    s.on (.call i (.failOpening Loss.onOpening))
  else if Metadata.sizeLimit ≤ r.headersSize then s.on (.call i .turnAway)
  else
    ((s.on (.call i .reach)).updateConnection (·.openStream i)).updatePlan i fun p =>
      { p with answerBy := r.timeout.map fun d => s.now + d.nanos }

/-- What happens to call `i` from outside, if anything does: the director decides or runs out of
    time, the request comes to the backend or the connection fails, the backend runs out of
    time. -/
def react (s : Session) (i : Nat) : Option Session := do
  let c ← s.service.calls[i]?
  let p ← s.plans[i]?
  match c.stage with
  | .resolving =>
    if c.left then none
    else if p.decideAt ≤ s.now then some (s.decide i p.decision)
    else
      match s.service.config.resolveTimeout with
      | some limit =>
        if s.isDue p.resolveBy then some (s.on (.decide i (.error (Service.resolveTimeout limit))))
        else none
      | none => none
  | _ =>
    if c.awaitsReach then
      match p.reach with
      | .up => some (s.deliver i c.request)
      | .down => some (s.on (.call i (.failOpening connectionRefused)))
      | .hang => none
    else if c.awaitsAnswer && s.isDue p.answerBy then
      some (s.on (.call i (.failOpening timeoutExpired)))
    else none

/-! ## The connection -/

/-- What the connection does for call `i` by itself, if anything: it takes over what was put on
    it, learns of the end of the request, or lets the next frame come.  It does nothing for a
    stream of an earlier connection. -/
def carry (s : Session) (i : Nat) : Option Session := do
  let c ← s.service.calls[i]?
  let o ← s.connection.streams[i]?
  if !c.request.reached || !o.attached then none
  else if c.request.cancelled || c.request.lost.isSome then
    if o.isIdle then none else some (s.updateConnection (·.close i))
  else if o.offered < c.request.bytes then
    some (s.updateConnection (·.offer i c.request.bytes))
  else if c.request.ended then
    if o.isIdle then none else some (s.updateConnection (·.finish i))
  else if !c.request.ready && o.isReady then some (s.on (.call i .ready))
  else none

/-- The connection breaks down under all calls. -/
def breakDown (s : Session) : Session :=
  let calls := List.range s.service.calls.length
  (calls.foldl (fun s i => s.on (.call i .breakDown)) s).updateConnection (·.replace)

end GrpcRelay.Session
