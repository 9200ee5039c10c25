/-
  Routes — a director's decision for one call: the backend, and optionally
  another method, metadata of its own, a scope and a completion callback.
-/
import GrpcRelay.Config
import GrpcRelay.Metadata
import GrpcRelay.Scope
import GrpcRelay.Text.Quoted

namespace GrpcRelay

/-- A routing decision; `β` is what a backend is known by and `κ` a callback. -/
structure Route (β κ : Type) where
  backend : β
  /-- The method to call on the backend instead. -/
  method : Option String
  /-- The metadata to send instead of the caller's. -/
  metadata : Option Metadata
  /-- The scope to run the call in; without one the call gets a scope of its own. -/
  scope : Option ScopeId
  onDone : Option κ

namespace Route

variable {β κ : Type}

/-- A route to a backend and nothing else. -/
def toBackend (backend : β) : Route β κ := ⟨backend, none, none, none, none⟩

def withMethod (r : Route β κ) (method : String) : Route β κ := { r with method := some method }

def withMetadata (r : Route β κ) (metadata : Metadata) : Route β κ :=
  { r with metadata := some metadata }

def withScope (r : Route β κ) (scope : ScopeId) : Route β κ := { r with scope := some scope }

def withCallback (r : Route β κ) (callback : κ) : Route β κ :=
  { r with onDone := some callback }

/-- The scope of a route, made if the route names none. -/
def ensureScope (r : Route β κ) (scopes : Scopes) : Scopes × ScopeId :=
  match r.scope with
  | some id => (scopes, id)
  | none => scopes.create none

/-- The fields by name, as a log shows them, for a route without metadata. -/
def describe (r : Route β κ) (scopes : Scopes) : String :=
  let scope := r.scope.map fun id =>
    s!"CancellationToken \x7b is_cancelled: {scopes.isCancelled id} \x7d"
  s!"Route \x7b method: {Config.optional (r.method.map Text.quoted)}, metadata: None, " ++
  s!"scope: {Config.optional scope}, on_done: {r.onDone.isSome}, .. \x7d"

end Route

end GrpcRelay
