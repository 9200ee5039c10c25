/-
  Lengths — the length that headers declare for the body after them, and the
  size of a list of headers.

  A `content-length` header declares a length by at most 19 decimal digits, by
  no digit the length zero; the first such header counts.  A list of headers
  has the size of its names and values and of 32 bytes more for each of them,
  and one of `sizeLimit` bytes is too long to be taken.
-/
import GrpcRelay.Metadata

namespace GrpcRelay

/-- What headers say about the length of the body after them. -/
inductive BodyLength where
  | undeclared
  | declared (bytes : Nat)
  /-- There is a declaration that is no number. -/
  | malformed
  deriving DecidableEq, Repr

namespace BodyLength

/-- Reads a declaration. -/
def ofText (s : String) : BodyLength :=
  if 19 < s.length then malformed
  else if s = "" then declared 0
  else
    match Text.decimal? s.toList with
    | some n => declared n
    | none => malformed

/-- The declared number of bytes. -/
def bytes? : BodyLength → Option Nat
  | declared n => some n
  | undeclared | malformed => none

end BodyLength

/-- The bytes of a value in headers, where bytes stand in base 64 without padding. -/
def MetadataValue.size : MetadataValue → Nat
  | text s => s.utf8ByteSize
  | binary b => (4 * b.size + 2) / 3

namespace Metadata

/-- The length that the headers declare. -/
def bodyLength (m : Metadata) : BodyLength :=
  match m.firstText? "content-length" with
  | some s => .ofText s
  | none => .undeclared

/-- The size of a header in a list. -/
def fieldSize (name value : Nat) : Nat := name + value + 32

/-- The size of the headers as a list. -/
def listSize (m : Metadata) : Nat :=
  m.entries.foldr (fun e n => fieldSize e.1.utf8ByteSize e.2.size + n) 0

/-- The size from which on a list of headers is too long. -/
def sizeLimit : Nat := 16384

end Metadata

end GrpcRelay
