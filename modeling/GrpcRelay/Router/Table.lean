/-
  Route tables — patterns with what is mounted on them.

  A path is matched from the left: where several patterns could go on, a
  literal character is tried before a parameter and a parameter before a
  catch-all, and a choice that leads nowhere is taken back.
-/
import GrpcRelay.Router.Pattern

namespace GrpcRelay

/-- The mounted patterns. -/
structure RouteTable (α : Type) where
  routes : List (Pattern × α)

namespace RouteTable

variable {α : Type}

def empty : RouteTable α := ⟨[]⟩

/-- Mounts a pattern. -/
def insert (t : RouteTable α) (pattern : String) (a : α) : Except PatternError (RouteTable α) :=
  match Pattern.parse pattern with
  | .error e => .error e
  | .ok p =>
    if t.routes.any fun r => r.1.conflicts p then .error .conflict
    else .ok ⟨t.routes ++ [(p, a)]⟩

/-- What is left of a pattern after a literal character. -/
def afterLiteral (c : Char) : Pattern × α → Option (Pattern × α)
  | (.literal d :: p, a) => if c = d then some (p, a) else none
  | _ => none

/-- What is left of a pattern after a parameter. -/
def afterParam : Pattern × α → Option (Pattern × α)
  | (.param :: p, a) => some (p, a)
  | _ => none

/-- What is mounted on a catch-all that begins here. -/
def onRest : Pattern × α → Option α
  | (.rest :: _, a) => some a
  | _ => none

/-- What is mounted on a pattern that ends here. -/
def onEnd : Pattern × α → Option α
  | ([], a) => some a
  | _ => none

/-- The rest of a path after the segment that it begins with, slash included. -/
def afterSegment (s : List Char) : List Char := s.dropWhile (· ≠ '/')

theorem afterSegment_length (s : List Char) : (afterSegment s).length ≤ s.length :=
  (List.dropWhile_suffix _).length_le

/-- The first of the patterns, in the order of preference, that matches the rest of a path.  A
    parameter takes the segment up to its slash, even if nothing is left of it; in the last
    segment there must be something to take. -/
def find (routes : List (Pattern × α)) : List Char → Option α
  | [] => routes.findSome? onEnd
  | c :: r =>
    (find (routes.filterMap (afterLiteral c)) r).or <|
      (match _h : afterSegment (c :: r) with
        | [] => (routes.filterMap afterParam).findSome? onEnd
        | _ :: t => find ((routes.filterMap afterParam).filterMap (afterLiteral '/')) t).or <|
        routes.findSome? onRest
termination_by s => s.length
decreasing_by
  · simp
  · have := afterSegment_length (c :: r)
    rw [_h] at this
    simp only [List.length_cons] at this ⊢
    omega

/-- What is mounted on the pattern that a path matches. -/
def lookup (t : RouteTable α) (path : String) : Option α := find t.routes path.toList

end RouteTable

end GrpcRelay
