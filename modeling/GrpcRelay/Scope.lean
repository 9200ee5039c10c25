/-
  Scopes — cancellation tokens in a forest: a signal to a scope reaches the
  scopes made inside it and no others.

  A scope is a number, its place in the order of creation, so a parent is
  always older than its children.  `Scopes.isCancelled` looks for a signal at
  a scope or above it; a scope made inside a cancelled one is cancelled from
  birth.
-/
namespace GrpcRelay

/-- The number of a scope. -/
abbrev ScopeId := Nat

/-- One scope: the scope it was made in, and whether it was signalled itself. -/
structure ScopeNode where
  parent : Option ScopeId
  signalled : Bool
  deriving DecidableEq, Repr

/-- All scopes made so far. -/
structure Scopes where
  nodes : List ScopeNode
  deriving DecidableEq, Repr

namespace Scopes

def empty : Scopes := ⟨[]⟩

instance : EmptyCollection Scopes := ⟨empty⟩
instance : Inhabited Scopes := ⟨empty⟩

/-- A new scope, inside `parent` if there is one. -/
def create (s : Scopes) (parent : Option ScopeId) : Scopes × ScopeId :=
  (⟨s.nodes ++ [⟨parent, false⟩]⟩, s.nodes.length)

/-- Signals a scope. -/
def signal (s : Scopes) (id : ScopeId) : Scopes :=
  ⟨s.nodes.modify id fun n => { n with signalled := true }⟩

/-- Whether a scope or one that it lies in was signalled. -/
def isCancelled (s : Scopes) (id : ScopeId) : Bool :=
  match s.nodes[id]? with
  | none => false
  | some n =>
    n.signalled ||
      match n.parent with
      | none => false
      | some p => if p < id then s.isCancelled p else false
termination_by id

end Scopes

/-- Scopes of which some are known by a name. -/
structure NamedScopes where
  scopes : Scopes
  names : List (String × ScopeId)
  deriving DecidableEq, Repr

namespace NamedScopes

def empty : NamedScopes := ⟨{}, []⟩

instance : EmptyCollection NamedScopes := ⟨empty⟩

/-- The scope of a name. -/
def find? (s : NamedScopes) (name : String) : Option ScopeId :=
  (s.names.find? fun p => p.1 == name).map Prod.snd

/-- A new scope under a name, which it takes from any older one. -/
def create (s : NamedScopes) (name : String) (parent : Option ScopeId) : NamedScopes × ScopeId :=
  let (scopes, id) := s.scopes.create parent
  (⟨scopes, (s.names.filter fun p => p.1 != name) ++ [(name, id)]⟩, id)

/-- The scope of a name, made if there is none. -/
def ensure (s : NamedScopes) (name : String) : NamedScopes × ScopeId :=
  match s.find? name with
  | some id => (s, id)
  | none => s.create name none

/-- Signals the scope of a name, if there is one. -/
def signal (s : NamedScopes) (name : String) : NamedScopes :=
  match s.find? name with
  | some id => { s with scopes := s.scopes.signal id }
  | none => s

/-- Every name with the state of its scope. -/
def states (s : NamedScopes) : List (String × Bool) :=
  s.names.map fun p => (p.1, s.scopes.isCancelled p.2)

end NamedScopes

end GrpcRelay
