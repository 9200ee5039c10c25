/-
  Path and query — the part of a URI after the authority.

  A `?` begins the query and a `#` a fragment, which is cut off; the path and
  the query have character sets of their own.
-/
import GrpcRelay.Uri.Error

namespace GrpcRelay

/-- A path, and a query if there is one. -/
structure PathQuery where
  path : List Char
  query : Option (List Char)
  deriving DecidableEq, Repr

namespace PathQuery

/-- The greatest length of a URI in bytes. -/
def maxLength : Nat := 65534

/-- Whether a character may stand in a path. -/
def isPathChar (c : Char) : Bool :=
  let n := c.toNat
  n == 0x21 || n == 0x22 || (0x24 ≤ n && n ≤ 0x3B) || n == 0x3D || (0x40 ≤ n && n ≤ 0x5F) ||
    (0x61 ≤ n && n ≤ 0x7E) || 0x80 ≤ n

/-- Whether a character may stand in a query. -/
def isQueryChar (c : Char) : Bool :=
  let n := c.toNat
  n == 0x21 || (0x24 ≤ n && n ≤ 0x3B) || n == 0x3D || (0x3F ≤ n && n ≤ 0x7E) || 0x80 ≤ n

/-- The query up to a fragment. -/
def takeQuery : List Char → Except UriError (List Char)
  | [] => .ok []
  | c :: r =>
    if c = '#' then .ok []
    else if isQueryChar c then (takeQuery r).map (c :: ·)
    else .error .character

/-- The path up to a query or a fragment, and the query. -/
def take : List Char → Except UriError PathQuery
  | [] => .ok ⟨[], none⟩
  | c :: r =>
    if c = '?' then (takeQuery r).map fun q => ⟨[], some q⟩
    else if c = '#' then .ok ⟨[], none⟩
    else if isPathChar c then (take r).map fun p => { p with path := c :: p.path }
    else .error .character

/-- Reads a path and a query. -/
def parse (s : String) : Except UriError PathQuery :=
  if maxLength < s.utf8ByteSize then .error .tooLong else take s.toList

/-- The path as a server sees it; an empty one reads as a slash. -/
def pathText (p : PathQuery) : String := if p.path = [] then "/" else .ofList p.path

/-- The query as a server sees it. -/
def queryText? (p : PathQuery) : Option String := p.query.map String.ofList

/-- The text of a path and a query. -/
def text (p : PathQuery) : String :=
  match p.query with
  | none => .ofList p.path
  | some q => .ofList (p.path ++ '?' :: q)

end PathQuery

end GrpcRelay
