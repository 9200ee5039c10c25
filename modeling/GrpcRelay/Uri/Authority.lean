/-
  Authorities — the part of a URI that names a host, up to the first `/`, `?`
  or `#`.

  `Authority.scan` reads the characters in order and remembers the colons,
  brackets, `@` and `%` signs met so far; some faults are told at once and the
  others at the end.
-/
import GrpcRelay.Text.Letters
import GrpcRelay.Uri.Error

namespace GrpcRelay.Authority

/-- What has been met so far. -/
structure Scan where
  /-- Colons since the last `@` or `]`. -/
  colons : Nat
  opened : Bool
  closed : Bool
  /-- A `%` since the last `@` or `]`. -/
  percent : Bool
  /-- Whether the last character was an `@`. -/
  afterAt : Bool
  deriving DecidableEq, Repr

/-- At the start of an authority. -/
def Scan.start : Scan := ⟨0, false, false, false, false⟩

/-- More colons than any address has. -/
def maxColons : Nat := 8

/-- Whether a character without a meaning of its own may stand in an authority. -/
def isPlain (c : Char) : Bool :=
  Text.isLetter c || Text.isDigit c ||
    ['!', '$', '&', '\x27', '(', ')', '*', '+', ',', '-', '.', ';', '=', '_', '~'].contains c

/-- Takes one more character into account. -/
def Scan.next (s : Scan) (c : Char) : Except UriError Scan :=
  let s' := { s with afterAt := false }
  if c = ':' then
    if maxColons ≤ s.colons then .error .authority else .ok { s' with colons := s.colons + 1 }
  else if c = '[' then
    if s.percent || s.opened then .error .authority else .ok { s' with opened := true }
  else if c = ']' then
    if !s.opened || s.closed then .error .authority
    else .ok { s' with closed := true, colons := 0, percent := false }
  else if c = '@' then .ok { s with colons := 0, percent := false, afterAt := true }
  else if c = '%' then .ok { s' with percent := true }
  else if isPlain c then .ok s'
  else .error .character

/-- The fault that shows only at the end. -/
def Scan.fault? (s : Scan) : Option UriError :=
  if s.opened != s.closed || 1 < s.colons || s.afterAt || s.percent then some .authority else none

/-- Whether a character ends the authority. -/
def isEnd (c : Char) : Bool := c = '/' || c = '?' || c = '#'

/-- The authority at the start of a text, and the rest. -/
def scan (s : Scan) : List Char → Except UriError (List Char × List Char)
  | [] => match s.fault? with
    | some e => .error e
    | none => .ok ([], [])
  | c :: r =>
    if isEnd c then
      match s.fault? with
      | some e => .error e
      | none => .ok ([], c :: r)
    else
      match s.next c with
      | .error e => .error e
      | .ok s => (scan s r).map fun p => (c :: p.1, p.2)

/-- The authority at the start of a text that is not empty, and the rest. -/
def cut (s : List Char) : Except UriError (List Char × List Char) :=
  if s = [] then .error .empty else scan .start s

end GrpcRelay.Authority
