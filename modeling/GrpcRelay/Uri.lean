/-
  URIs — the target of a request or the address of a backend.

  A text of one character is a slash, a star or an authority.  A text that
  begins with a slash is a path.  Any other text is an authority alone, or a
  scheme, `://`, an authority and possibly a path.
-/
import GrpcRelay.Text.Cut
import GrpcRelay.Uri.Authority
import GrpcRelay.Uri.PathQuery

namespace GrpcRelay

open Text

/-- The parts of a URI; a URI without a scheme is a path or an authority alone. -/
structure Uri where
  scheme : Option (List Char)
  authority : Option (List Char)
  pathQuery : Option PathQuery
  deriving DecidableEq, Repr

namespace Uri

/-- The greatest length of a scheme. -/
def maxScheme : Nat := 64

def isSchemeChar (c : Char) : Bool :=
  isLetter c || isDigit c || c = '+' || c = '-' || c = '.' || c = '~'

/-- The scheme before `://` and the text after it, if the text begins with one. -/
def cutScheme? (s : List Char) : Option (List Char × List Char) :=
  let scheme := s.takeWhile isSchemeChar
  (after? [':', '/', '/'] (s.drop scheme.length)).map fun rest => (scheme, rest)

/-- The scheme at the start of a text, if there is one, and the rest.  Only a text of more than
    three characters can have one. -/
def splitScheme (s : List Char) : Except UriError (Option (List Char) × List Char) :=
  if s.length ≤ 3 then .ok (none, s)
  else
    match cutScheme? s with
    | none => .ok (none, s)
    | some (scheme, rest) =>
      if maxScheme < scheme.length then .error .schemeTooLong else .ok (some scheme, rest)

/-- A text that is an authority and nothing else; `left` is the error for a rest. -/
def authorityAlone (left : UriError) (s : List Char) : Except UriError Uri :=
  match Authority.cut s with
  | .error e => .error e
  | .ok (a, rest) => if rest = [] then .ok ⟨none, some a, none⟩ else .error left

/-- A text that is not a path. -/
def parseFull (s : List Char) : Except UriError Uri :=
  match splitScheme s with
  | .error e => .error e
  | .ok (none, s) => authorityAlone .format s
  | .ok (some scheme, s) =>
    match Authority.cut s with
    | .error e => .error e
    | .ok (a, rest) =>
      if a = [] then .error .format
      else (PathQuery.take rest).map fun p => ⟨some scheme, some a, some p⟩

/-- Reads a URI. -/
def parse (text : String) : Except UriError Uri :=
  if PathQuery.maxLength < text.utf8ByteSize then .error .tooLong
  else
    match text.toList with
    | [] => .error .empty
    | ['/'] => .ok ⟨none, none, some ⟨['/'], none⟩⟩
    | ['*'] => .ok ⟨none, none, some ⟨['*'], none⟩⟩
    | [c] => authorityAlone .character [c]
    | '/' :: r => (PathQuery.take ('/' :: r)).map fun p => ⟨none, none, some p⟩
    | s => parseFull s

/-- The path as a server sees it; an authority alone has none. -/
def pathText (u : Uri) : String :=
  match u.pathQuery with
  | none => ""
  | some p => p.pathText

/-- The authority. -/
def authorityText? (u : Uri) : Option String := u.authority.map String.ofList

end Uri

end GrpcRelay
