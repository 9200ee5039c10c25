/-
  Frames — the messages of a call, kept as opaque bytes.
-/
import GrpcRelay.Bytes

namespace GrpcRelay

/-- One message, without the prefix that it has on the wire. -/
structure Frame where
  bytes : ByteArray
  deriving DecidableEq

namespace Frame

def empty : Frame := ⟨.empty⟩

instance : Inhabited Frame := ⟨empty⟩

/-- The number of bytes. -/
def size (f : Frame) : Nat := f.bytes.size

def isEmpty (f : Frame) : Bool := f.size == 0

end Frame

end GrpcRelay
