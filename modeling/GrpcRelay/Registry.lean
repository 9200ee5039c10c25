/-
  The registry — the calls in flight, and the guards that hold them there.

  A call is tracked under its identifier until its guard is released.  A
  release has three steps, each of which the rest of the program can observe:
  the completion callback is called, the call is removed, and its scope is
  cancelled (`Release`).
-/
import GrpcRelay.Abort
import GrpcRelay.CallId
import GrpcRelay.Scope
import GrpcRelay.Text.Quoted

namespace GrpcRelay

/-- A tracked call. -/
structure ActiveCall where
  method : String
  scope : ScopeId
  deriving DecidableEq, Repr

/-- The calls in flight by identifier. -/
structure Registry where
  entries : List (CallId × ActiveCall)
  deriving DecidableEq, Repr

namespace Registry

def empty : Registry := ⟨[]⟩

instance : EmptyCollection Registry := ⟨empty⟩
instance : Inhabited Registry := ⟨empty⟩

/-- The call of an identifier. -/
def get? (r : Registry) (id : CallId) : Option ActiveCall :=
  (r.entries.find? fun e => e.1 == id).map Prod.snd

def contains (r : Registry) (id : CallId) : Bool := (r.get? id).isSome

/-- The number of calls in flight. -/
def size (r : Registry) : Nat := r.entries.length

def isEmpty (r : Registry) : Bool := r.entries.isEmpty

/-- The registry without an identifier. -/
def remove (r : Registry) (id : CallId) : Registry := ⟨r.entries.filter fun e => e.1 != id⟩

/-- Tracks a call; an older entry of its identifier gives way. -/
def insert (r : Registry) (id : CallId) (call : ActiveCall) : Registry :=
  ⟨(r.remove id).entries ++ [(id, call)]⟩

/-- Signals the scope of every call in flight and counts them. -/
def cancelAll (r : Registry) (scopes : Scopes) : Scopes × Nat :=
  (r.entries.foldl (fun s e => s.signal e.2.scope) scopes, r.size)

end Registry

/-! ## Guards -/

/-- Holds one call in the registry. -/
structure Guard where
  id : CallId
  method : String
  scope : ScopeId
  /-- Whether a callback waits for the end of the call. -/
  notifies : Bool
  deriving DecidableEq, Repr

namespace Guard

/-- What the callback of a call is told that was given up before it ended. -/
def abandoned : Status := .of .cancelled "call abandoned before completion"

/-- The entry that a guard holds. -/
def call (g : Guard) : ActiveCall := ⟨g.method, g.scope⟩

/-- The fields by name, as a log shows them. -/
def describe (g : Guard) : String :=
  s!"CallGuard \x7b id: {g.id.text}, method: {Text.quoted g.method} \x7d"

end Guard

/-- The steps of a release, in their order. -/
inductive Release where
  /-- The callback is called. -/
  | report
  /-- The call leaves the registry. -/
  | remove
  /-- The scope of the call is cancelled. -/
  | signal
  deriving DecidableEq, Repr

end GrpcRelay
