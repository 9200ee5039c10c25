/-
  Steps of a call — what its tasks do by themselves, one branch at a time.

  `Call.step?` runs one branch, named by a `CallMove`, and is `none` where the
  branch is not ready.  A step changes its own call only; what it does to the
  state that calls share, the registry and the scopes, it asks for by an
  `Effect`.

  The handler can be given up where it waits: for the director, for the
  backend or for the request loop.
-/
import GrpcRelay.Call.BackendLeg

namespace GrpcRelay

/-- What a step asks for outside its call. -/
inductive Effect where
  /-- The director is asked. -/
  | consult
  /-- The call is put into the registry. -/
  | track (g : Guard)
  /-- The completion callback is called. -/
  | report (error : Option Status)
  /-- The call is taken out of the registry. -/
  | remove (id : CallId)
  /-- The scope of the call is cancelled. -/
  | signal (scope : ScopeId)

/-- The branches of the tasks of a call. -/
inductive CallMove where
  /-- The handler is given up. -/
  | abandon
  /-- The request is looked at. -/
  | accept
  /-- The call is tracked. -/
  | track
  /-- The request loop is started and the stream opened, or the route refused. -/
  | launch
  /-- The abort is cancelled while the stream is being opened. -/
  | quit
  /-- What came of opening the stream is taken. -/
  | opened
  /-- The reason why opening failed is recorded. -/
  | record
  /-- The signal after a failure to open is given. -/
  | signal
  /-- The request loop has returned after a failure to open. -/
  | join
  /-- The response loop takes a branch. -/
  | down (m : ResponseLoop.Move)
  /-- The response loop has returned. -/
  | settle
  /-- The request loop is told to stop. -/
  | close
  /-- The request loop has returned after the response loop. -/
  | await
  /-- The request loop takes a branch. -/
  | up (m : RequestLoop.Move)
  /-- The leg to the backend takes a frame. -/
  | forward
  /-- The leg to the backend sees that no more frames come. -/
  | finishRequest
  /-- The next step of a release. -/
  | release

namespace CallMove

/-- All branches, in the order in which a scheduler without choice tries them. -/
def all : List CallMove :=
  [abandon, accept, track, launch, quit, opened, record, signal, join] ++
    ResponseLoop.Move.all.map down ++ [settle, close, await] ++ RequestLoop.Move.all.map up ++
    [forward, finishRequest, release]

end CallMove

namespace Call

/-- The context that the director is shown. -/
def contextOf (a : Arrival) (method : MethodPath) : CallContext :=
  ⟨method, a.authority, a.metadata, a.peer⟩

/-- Looks at the encoding and the path of a request. -/
def accept (c : Call) : Call × Option Effect :=
  match Status.encodingError? c.arrival.metadata with
  | some s => ({ c with stage := .over (.rejected s), answer := some (.refused s) }, none)
  | none =>
    match MethodPath.parse c.arrival.path with
    | .error e =>
      let s := (RouteError.ofPath e).status
      ({ c with stage := .over (.rejected s), answer := some (.refused s) }, none)
    | .ok method =>
      ({ c with stage := .resolving, context := some (contextOf c.arrival method) }, some .consult)

/-- Starts the request loop and the request, or refuses the route's method. -/
def launch (config : Config) (context : CallContext) (route : Route String Unit) (c : Call) :
    Call :=
  match backendPath (route.method.getD context.method.text) with
  | .error s => { c with stage := .releasing (.refused s) .report }
  | .ok path =>
    let metadata := (backendMetadata config context route.metadata).sanitize
    { c with
      stage := .opening
      up := c.up.start
      request := { c.request with
        path, metadata := metadata.withoutConnection, timeout := metadata.timeout? } }

/-- The next step of a release and its effect. -/
def release (c : Call) (g : Guard) (ending : Ending) : Release → Call × Option Effect
  | .report =>
    ({ c with stage := .releasing ending .remove },
      if g.notifies then some (.report ending.error?) else none)
  | .remove => ({ c with stage := .releasing ending .signal }, some (.remove g.id))
  | .signal =>
    ({ c with
        stage := .over ending
        guard := none
        answer := match ending with
          | .refused s => some (.refused s)
          | _ => c.answer }, some (.signal g.scope))

/-- The handler is given up where it waits. -/
def abandon (c : Call) : Option Call :=
  if c.left then
    match c.stage with
    | .resolving => some { c with stage := .over .forsaken }
    | .opening | .joining _ =>
      some { c.cancelRequest with stage := .releasing .abandoned .report, response := .unanswered }
    | _ => none
  else none

/-- Runs one branch, given whether the scope of the call is cancelled. -/
def step? (config : Config) (scope : Bool) (c : Call) : CallMove → Option (Call × Option Effect)
  | .abandon => c.abandon.map fun c => (c, none)
  | .accept =>
    match c.stage with
    | .arriving => some c.accept
    | _ => none
  | .track =>
    match c.stage, c.guard with
    | .routed, some g => some ({ c with stage := .tracked }, some (.track g))
    | _, _ => none
  | .launch =>
    match c.stage, c.context, c.route with
    | .tracked, some context, some route => some (c.launch config context route, none)
    | _, _, _ => none
  | .quit =>
    match c.stage with
    | .opening =>
      if !c.left && c.abort.isCancelled scope then
        some ({ c.giveUpOpening with
          stage := .recording c.abort.reason
          response := .unanswered }, none)
      else none
    | _ => none
  | .opened =>
    match c.stage, c.response.result with
    | .opening, some (.error s) =>
      if c.left then none else some ({ c with stage := .recording s }, none)
    | .opening, some (.ok headers) =>
      if c.left then none
      else some ({ c with
        stage := .relaying
        down := c.down.start
        answer := some (.opened headers.strip) }, none)
    | _, _ => none
  | .record =>
    match c.stage with
    | .recording s => some ({ c with stage := .signalling s, abort := c.abort.record s }, none)
    | _ => none
  | .signal =>
    match c.stage with
    | .signalling s => some ({ c with stage := .joining s, abort := c.abort.signal }, none)
    | _ => none
  | .join =>
    match c.stage with
    | .joining s =>
      if !c.left && c.up.hasReturned then
        some ({ c with stage := .releasing (.refused s) .report }, none)
      else none
    | _ => none
  | .down m =>
    match c.stage with
    | .relaying =>
      (c.down.step? scope c.abort m).map fun (down, abort) => ({ c with down, abort }, none)
    | _ => none
  | .settle =>
    match c.stage with
    | .relaying =>
      c.down.outcome?.map fun o => ({ c.giveUpResponse with stage := .closing o }, none)
    | _ => none
  | .close =>
    match c.stage with
    | .closing o => some ({ c with stage := .awaiting o, abort := c.abort.signal }, none)
    | _ => none
  | .await =>
    match c.stage with
    | .awaiting o =>
      if c.up.hasReturned then some ({ c with stage := .releasing (.relayed o) .report }, none)
      else none
    | _ => none
  | .up m =>
    (c.up.step? scope c.abort m).map fun (up, abort) => ({ c with up, abort }, none)
  | .forward => (c.forward config).map fun c => (c, none)
  | .finishRequest => c.finishRequest.map fun c => (c, none)
  | .release =>
    match c.stage, c.guard with
    | .releasing ending step, some g => some (c.release g ending step)
    | _, _ => none

end Call

end GrpcRelay
