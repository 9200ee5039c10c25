/-
  Services — a proxy with its calls, the registry of those in flight and the
  scopes that they run in.

  `Service.step?` runs one branch of one call and carries out its effect;
  `Service.advance?` runs the first branch that is ready.  What comes from
  outside is a `ServiceEvent`, carried out by `Service.on`: requests, decisions
  of the director, what callers and backends do, and signals to scopes.
-/
import GrpcRelay.Call.Event
import GrpcRelay.Call.Step

namespace GrpcRelay

/-- A proxy at work. -/
structure Service where
  config : Config
  scopes : Scopes
  registry : Registry
  /-- All calls, in the order of their arrival. -/
  calls : List Call
  /-- The calls that the director was asked about, in order. -/
  consulted : List Nat
  /-- The calls whose requests came to a backend, in order. -/
  reached : List Nat
  /-- The completion callbacks that ran, each with its call and the error it was told. -/
  completions : List (Nat × Option Status)

namespace Service

/-- A proxy without calls. -/
def ofConfig (config : Config) : Service := ⟨config, {}, {}, [], [], [], []⟩

/-- The number of calls in flight. -/
def activeCalls (s : Service) : Nat := s.registry.size

/-- Changes one call. -/
def update (s : Service) (i : Nat) (f : Call → Call) : Service :=
  { s with calls := s.calls.modify i f }

/-! ## Steps -/

/-- Carries out what a step of call `i` asks for. -/
def perform (s : Service) (i : Nat) : Effect → Service
  | .consult => { s with consulted := s.consulted ++ [i] }
  | .track g => { s with registry := s.registry.insert g.id g.call }
  | .report error => { s with completions := s.completions ++ [(i, error)] }
  | .remove id => { s with registry := s.registry.remove id }
  | .signal scope => { s with scopes := s.scopes.signal scope }

/-- Whether the scope of a call is cancelled. -/
def isCancelled (s : Service) (c : Call) : Bool :=
  match c.scope? with
  | some id => s.scopes.isCancelled id
  | none => false

/-- What one branch makes of call `i`, and what it asks for. -/
def branch? (s : Service) (i : Nat) (m : CallMove) : Option (Call × Option Effect) :=
  s.calls[i]?.bind fun c => c.step? s.config (s.isCancelled c) m

/-- The service once a branch has made this of call `i`. -/
def after (s : Service) (i : Nat) (r : Call × Option Effect) : Service :=
  match r.2 with
  | none => s.update i fun _ => r.1
  | some e => (s.update i fun _ => r.1).perform i e

/-- Runs one branch of call `i`. -/
def step? (s : Service) (i : Nat) (m : CallMove) : Option Service := (s.branch? i m).map (s.after i)

/-- Runs the first branch that is ready in one of the calls from `i` on, at most `n` of them. -/
def advanceFrom (s : Service) (i : Nat) : Nat → Option Service
  | 0 => none
  | n + 1 =>
    match CallMove.all.findSome? (s.step? i) with
    | some s => some s
    | none => s.advanceFrom (i + 1) n

/-- Runs the first branch that is ready. -/
def advance? (s : Service) : Option Service := s.advanceFrom 0 s.calls.length

/-! ## Events -/

/-- A request arrives. -/
def arrive (s : Service) (a : Arrival) : Service :=
  { s with calls := s.calls ++ [.ofArrival s.config a] }

/-- The guard of call `i` on its route. -/
def guardOf (i : Nat) (context : CallContext) (scope : ScopeId) (route : Route String Unit) :
    Guard :=
  ⟨⟨i⟩, context.method.text, scope, route.onDone.isSome⟩

/-- The director decides on call `i`, if it is being asked about it.  A route without a scope gets
    a new one. -/
def decide (s : Service) (i : Nat) (decision : Except Status (Route String Unit)) : Service :=
  match s.calls[i]? with
  | none => s
  | some c =>
    match c.stage, c.context with
    | .resolving, some context =>
      if c.left then s
      else
        match decision with
        | .error e =>
          s.update i fun c => { c with stage := .over (.rejected e), answer := some (.refused e) }
        | .ok route =>
          let (scopes, scope) := route.ensureScope s.scopes
          { s with scopes }.update i fun c =>
            { c with
              stage := .routed
              route := some (route.withScope scope)
              guard := some (guardOf i context scope route) }
    | _, _ => s

/-- What a caller is told whose director took too long. -/
def resolveTimeout (limit : Duration) : Status :=
  .of .deadlineExceeded s!"no route resolved within {limit.text}"

/-- Notes that the request of call `i` has come to its backend, if that is news. -/
def noteReached (s : Service) (i : Nat) (before after : Call) : Service :=
  if !before.request.reached && after.request.reached then { s with reached := s.reached ++ [i] }
  else s

/-- Carries out an event of call `i`. -/
def onCall (s : Service) (i : Nat) (e : CallEvent) : Service :=
  match s.calls[i]? with
  | none => s
  | some c => (s.update i fun _ => c.on s.config e).noteReached i c (c.on s.config e)

/-- Cancels the scopes of all calls in flight. -/
def shutdown (s : Service) : Service := { s with scopes := (s.registry.cancelAll s.scopes).1 }

end Service

/-- What can happen to a service from outside. -/
inductive ServiceEvent where
  | arrive (a : Arrival)
  /-- The director decides on a call, or its time is over. -/
  | decide (call : Nat) (decision : Except Status (Route String Unit))
  | call (call : Nat) (e : CallEvent)
  | createScope (parent : Option ScopeId)
  | cancelScope (scope : ScopeId)
  | shutdown

/-- Carries out an event. -/
def Service.on (s : Service) : ServiceEvent → Service
  | .arrive a => s.arrive a
  | .decide i decision => s.decide i decision
  | .call i e => s.onCall i e
  | .createScope parent => { s with scopes := (s.scopes.create parent).1 }
  | .cancelScope scope => { s with scopes := s.scopes.signal scope }
  | .shutdown => s.shutdown

end GrpcRelay
