/-
  Call books — a registry at work: scopes and guards known by name, and what
  each operation on them makes happen.

  `CallBook.apply` runs one operation; it gives the new book, an answer and
  the completion callbacks that ran meanwhile.  A callback sees the registry
  and the scope as they are at that moment, before the release goes on.
-/
import GrpcRelay.Registry

namespace GrpcRelay

/-- A completion callback that ran. -/
structure Completion where
  /-- The name of the guard that was released. -/
  guard : String
  error : Option Status
  /-- The number of calls in flight at that moment. -/
  size : Nat
  /-- Whether the scope of the call was cancelled at that moment. -/
  cancelled : Bool
  deriving DecidableEq

/-- Scopes, calls in flight and the guards that hold them. -/
structure CallBook where
  scopes : NamedScopes
  registry : Registry
  guards : List (String × Guard)

/-- What can be done with a call book. -/
inductive BookOp where
  | scope (name : String) (parent : Option String)
  | cancel (scope : String)
  | track (guard : String) (id : CallId) (scope method : String) (notifies : Bool)
  /-- Ends a call with an outcome, `none` for success. -/
  | finish (guard : String) (error : Option Status)
  /-- Gives a call up. -/
  | drop (guard : String)
  | cancelAll
  | describe (guard : String)
  | contains (id : CallId)
  | get (id : CallId)

/-- What an operation answers. -/
inductive BookAnswer where
  | nothing
  | noGuard
  | count (n : Nat)
  | flag (b : Bool)
  | text (s : Option String)
  deriving DecidableEq, Repr

namespace CallBook

def empty : CallBook := ⟨{}, {}, []⟩

instance : EmptyCollection CallBook := ⟨empty⟩

/-- The guard of a name. -/
def guard? (b : CallBook) (name : String) : Option Guard :=
  (b.guards.find? fun g => g.1 == name).map Prod.snd

/-- Runs the three steps of a release; the guard of that name must not be held any more. -/
def release (b : CallBook) (name : String) (g : Guard) (error : Option Status) :
    CallBook × List Completion :=
  let done :=
    if g.notifies then [⟨name, error, b.registry.size, b.scopes.scopes.isCancelled g.scope⟩]
    else []
  ({ b with
      registry := b.registry.remove g.id
      scopes := { b.scopes with scopes := b.scopes.scopes.signal g.scope } }, done)

/-- Releases the guard of a name, if there is one. -/
def releaseNamed (b : CallBook) (name : String) (error : Option Status) :
    CallBook × BookAnswer × List Completion :=
  match b.guard? name with
  | none => (b, .noGuard, [])
  | some g =>
    let (b, done) :=
      { b with guards := b.guards.filter fun e => e.1 != name }.release name g error
    (b, .nothing, done)

/-- Tracks a call under a guard's name; an older guard of that name is given up afterwards. -/
def track (b : CallBook) (name : String) (id : CallId) (scope method : String)
    (notifies : Bool) : CallBook × List Completion :=
  let (scopes, scopeId) := b.scopes.ensure scope
  let g : Guard := ⟨id, method, scopeId, notifies⟩
  let old := b.guard? name
  let b : CallBook :=
    { scopes
      registry := b.registry.insert id g.call
      guards := (b.guards.filter fun e => e.1 != name) ++ [(name, g)] }
  match old with
  | none => (b, [])
  | some g => b.release name g (some Guard.abandoned)

/-- Runs one operation. -/
def apply (b : CallBook) : BookOp → CallBook × BookAnswer × List Completion
  | .scope name parent =>
    let (scopes, _) := b.scopes.create name (parent.bind b.scopes.find?)
    ({ b with scopes }, .nothing, [])
  | .cancel scope => ({ b with scopes := b.scopes.signal scope }, .nothing, [])
  | .track guard id scope method notifies =>
    let (b, done) := b.track guard id scope method notifies
    (b, .nothing, done)
  | .finish guard error => b.releaseNamed guard error
  | .drop guard => b.releaseNamed guard (some Guard.abandoned)
  | .cancelAll =>
    let (scopes, n) := b.registry.cancelAll b.scopes.scopes
    ({ b with scopes := { b.scopes with scopes } }, .count n, [])
  | .describe guard => (b, .text ((b.guard? guard).map Guard.describe), [])
  | .contains id => (b, .flag (b.registry.contains id), [])
  | .get id => (b, .text ((b.registry.get? id).map ActiveCall.method), [])

end CallBook

end GrpcRelay
