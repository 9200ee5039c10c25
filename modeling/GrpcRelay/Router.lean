/-
  Routers — which calls go to the proxy.

  A router starts from native routes, registers methods for the proxy, and in
  transparent mode sends to the proxy whatever no route handles.
-/
import GrpcRelay.RouteError
import GrpcRelay.Router.Table

namespace GrpcRelay

/-- What is mounted on a route. -/
inductive Mounted where
  | native
  | proxy
  deriving DecidableEq, Repr

/-- Where a request goes. -/
inductive Dispatch where
  | native
  | proxy
  /-- No route handles the request. -/
  | unknown
  deriving DecidableEq, Repr

/-- Why a registration fails. -/
inductive RegisterError where
  | route (e : RouteError)
  /-- The path cannot be mounted. -/
  | pattern (e : PatternError)
  deriving DecidableEq, Repr

/-- The routes of a server. -/
structure Router where
  table : RouteTable Mounted
  /-- The full paths of the methods registered for the proxy. -/
  registered : List String
  transparent : Bool

namespace Router

/-- A router without routes. -/
def empty : Router := ⟨.empty, [], false⟩

/-- A router over native routes. -/
def ofNative (patterns : List String) : Except PatternError Router :=
  (patterns.foldlM (fun (t : RouteTable Mounted) p => t.insert p .native) .empty).map fun t =>
    { empty with table := t }

/-- Registers one method for the proxy. -/
def registerMethod (r : Router) (service method : String) : Except RegisterError Router :=
  match MethodPath.ofParts service method with
  | .error e => .error (.route (.ofPath e))
  | .ok path =>
    if r.registered.contains path.text then .error (.route (.duplicateRoute path.text))
    else
      match r.table.insert path.text .proxy with
      | .error e => .error (.pattern e)
      | .ok table => .ok { r with table, registered := r.registered ++ [path.text] }

/-- Registers methods of a service for the proxy, in order. -/
def register (r : Router) (service : String) (methods : List String) :
    Except RegisterError Router :=
  methods.foldlM (fun r m => r.registerMethod service m) r

/-- Sends every call that no route handles to the proxy. -/
def makeTransparent (r : Router) : Router := { r with transparent := true }

/-- Whether a method was registered for the proxy. -/
def hasRoute (r : Router) (path : String) : Bool :=
  match MethodPath.parse path with
  | .ok p => r.registered.contains p.text
  | .error _ => false

/-- What a caller is told whose request no route handles. -/
def unknownMethod : Status := .of .unimplemented "Unknown method"

/-- Where a request for a path goes. -/
def dispatch (r : Router) (path : String) : Dispatch :=
  match r.table.lookup path with
  | some .native => .native
  | some .proxy => .proxy
  | none => if r.transparent then .proxy else .unknown

/-- What a caller is told where native routes answer `native` and the director of the proxy rejects
    every method with a status of its own. -/
def verdict (r : Router) (native : Status) (reject : MethodPath → Status) (path : String) :
    Status :=
  match r.dispatch path with
  | .native => native
  | .unknown => unknownMethod
  | .proxy =>
    match MethodPath.parse path with
    | .ok p => reject p
    | .error e => (RouteError.ofPath e).status

end Router

end GrpcRelay
