/-
  Sessions — a service with scripted callers, a scripted director and scripted
  backends, in virtual time.

  What a caller or a backend does is a function on sessions (`Session/Caller`,
  `Session/Backend`).  What happens by itself is in `Session/Reaction`, and
  `Session/Time` lets it happen and lets time pass.

  All requests go to their backends over one connection, which carries the
  frames as far as its windows go.
-/
import GrpcRelay.Connection
import GrpcRelay.Router
import GrpcRelay.Service
import GrpcRelay.Session.Script

namespace GrpcRelay

/-- A service and all around it. -/
structure Session where
  router : Router
  service : Service
  /-- The scopes that the director knows by name. -/
  names : List (String × ScopeId)
  /-- The time in nanoseconds. -/
  now : Nat
  callers : List Caller
  /-- One plan for each call of the service. -/
  plans : List Plan
  /-- The connection to the backends, with a stream for each call of the service. -/
  connection : Connection

namespace Session

/-- A session at time zero. -/
def ofRouter (config : Config) (router : Router) : Session :=
  ⟨router, .ofConfig config, [], 0, [], [], .fresh⟩

/-- Something happens to the service. -/
def on (s : Session) (e : ServiceEvent) : Session := { s with service := s.service.on e }

/-- Something happens to call `i` if it can; whether it could. -/
def onCall (s : Session) (i : Nat) (can : Call → Bool) (e : CallEvent) : Bool × Session :=
  if (s.service.calls[i]?.map can).getD false then (true, s.on (.call i e)) else (false, s)

def updatePlan (s : Session) (i : Nat) (f : Plan → Plan) : Session :=
  { s with plans := s.plans.modify i f }

def updateCaller (s : Session) (i : Nat) (f : Caller → Caller) : Session :=
  { s with callers := s.callers.modify i f }

def updateConnection (s : Session) (f : Connection → Connection) : Session :=
  { s with connection := f s.connection }

/-- The named scopes with the state of all scopes. -/
def scopes (s : Session) : NamedScopes := ⟨s.service.scopes, s.names⟩

def withScopes (s : Session) (scopes : NamedScopes) : Session :=
  { s with service := { s.service with scopes := scopes.scopes }, names := scopes.names }

/-! ## Scopes and the registry -/

/-- Cancels all calls in flight and counts them. -/
def shutdown (s : Session) : Nat × Session := (s.service.activeCalls, s.on .shutdown)

/-- Cancels a named scope, if there is one. -/
def cancelScope (s : Session) (name : String) : Session := s.withScopes (s.scopes.signal name)

/-- The calls that the director was asked about, as the registry knows them. -/
def tracked (s : Session) : List (Option ActiveCall) :=
  s.service.consulted.map fun i => s.service.registry.get? ⟨i⟩

/-- The completion callbacks that ran since `s` was `before`, by number of consultation. -/
def doneSince (s before : Session) : List (Nat × Option Status) :=
  let new := s.service.completions.drop before.service.completions.length
  (new.map fun d => (s.service.consulted.idxOf d.1, d.2)).mergeSort fun a b => a.1 ≤ b.1

end Session

end GrpcRelay
