/-
  Route errors — what can be wrong with a method path or a registration, and
  the status that a caller sees of it.
-/
import GrpcRelay.MethodPath
import GrpcRelay.Status

namespace GrpcRelay

/-- An error in the set-up of routes or in the path of a call. -/
inductive RouteError where
  /-- A method path or one of its parts is malformed. -/
  | invalidPath (detail : String)
  /-- The same method was registered twice. -/
  | duplicateRoute (path : String)
  deriving DecidableEq, Repr

namespace RouteError

def ofPath (e : PathError) : RouteError := .invalidPath e.message

/-- The wording of an error. -/
def message : RouteError → String
  | invalidPath detail => "invalid method path: " ++ detail
  | duplicateRoute path => s!"route already registered: '{path}'"

/-- What a caller is told. -/
def status : RouteError → Status
  | e@(invalidPath _) => .of .unimplemented e.message
  | e@(duplicateRoute _) => .of .internal e.message

end RouteError

end GrpcRelay
