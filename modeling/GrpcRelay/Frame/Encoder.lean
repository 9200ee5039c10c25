/-
  Writing frames — each frame goes to the wire as a flag byte of zero, its
  length in four bytes, the highest first, and its bytes.

  `encode` writes a list of items: frames are gathered in a buffer that is
  written out when it has grown to `flushSize`, at the end and before a status
  that ends the list.  A frame over the limit ends the list at once, and what
  is in the buffer then is lost.
-/
import GrpcRelay.Frame
import GrpcRelay.Status.Headers

namespace GrpcRelay.Frame

/-- The four bytes of a length, the highest first. -/
def lengthBytes (n : Nat) : ByteArray :=
  ⟨#[UInt8.ofNat (n / 16777216), UInt8.ofNat (n / 65536), UInt8.ofNat (n / 256), UInt8.ofNat n]⟩

/-- The form of a frame on the wire. -/
def wire (f : Frame) : ByteArray := ⟨#[0]⟩ ++ lengthBytes f.size ++ f.bytes

/-- The number of bytes of a frame on the wire. -/
def wireSize (f : Frame) : Nat := 5 + f.size

/-- The number of bytes of several frames on the wire. -/
def wireSizeAll (fs : List Frame) : Nat := fs.foldr (fun f n => f.wireSize + n) 0

theorem size_wire (f : Frame) : f.wire.size = f.wireSize := by
  simp [wire, wireSize, lengthBytes, size, ByteArray.size_append]
  rfl

/-- Why a frame cannot be written under a limit. -/
def encodeError? (limit : Option Nat) (f : Frame) : Option Status :=
  match limit with
  | some l =>
    if l < f.size then
      some (.of .outOfRange
        (s!"Error, encoded message length too large: found {f.size} bytes, " ++
          s!"the limit is: {l} bytes"))
    else tooLong? f
  | none => tooLong? f
where
  /-- The length of a frame has 32 bits. -/
  tooLong? (f : Frame) : Option Status :=
    if 4294967296 ≤ f.size then
      some (.of .resourceExhausted
        s!"Cannot return body with more than 4GB of data but got {f.size} bytes")
    else none

end Frame

/-- What is given to an encoder: frames, and possibly a status that ends them. -/
inductive Outgoing where
  | frame (f : Frame)
  | status (s : Status)

/-- What an encoder wrote, and the status that stopped it, if any. -/
structure Encoded where
  wire : ByteArray
  failure : Option Status

namespace Encoded

/-- The buffer is written out when it holds this many bytes. -/
def flushSize : Nat := 32768

/-- Writes the items after `written`, with `buffer` not yet written. -/
def run (limit : Option Nat) (written buffer : ByteArray) : List Outgoing → Encoded
  | [] => ⟨written ++ buffer, none⟩
  | .status s :: _ => ⟨written ++ buffer, some s⟩
  | .frame f :: r =>
    match f.encodeError? limit with
    | some s => ⟨written, some s⟩
    | none =>
      let buffer := buffer ++ f.wire
      if flushSize ≤ buffer.size then run limit (written ++ buffer) .empty r
      else run limit written buffer r

/-- The items on the wire. -/
def ofItems (limit : Option Nat) (items : List Outgoing) : Encoded := run limit .empty .empty items

/-- The trailers that a server writes at the end: the status of the failure, or `ok`. -/
def trailers (e : Encoded) : Metadata := (e.failure.getD (.of .ok "")).toHeaders

end Encoded

end GrpcRelay
