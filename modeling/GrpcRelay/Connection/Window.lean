/-
  Windows — how many bytes a receiver lets its sender send.

  What is sent takes room; what the receiver has read is claimed back in one
  piece as soon as it makes up half of the room that is left.
-/
namespace GrpcRelay

/-- A window of flow control. -/
structure Window where
  /-- How many bytes may still be sent. -/
  room : Nat
  /-- How many bytes were read and not claimed back yet. -/
  unclaimed : Nat
  deriving DecidableEq, Repr

namespace Window

/-- The room of a fresh window: 1 MiB. -/
def size : Nat := 1048576

/-- A window at its start. -/
def fresh : Window := ⟨size, 0⟩

instance : Inhabited Window := ⟨fresh⟩

/-- Bytes are sent. -/
def send (w : Window) (n : Nat) : Window := { w with room := w.room - n }

/-- Whether it is time to claim back what was read. -/
def isClaiming (w : Window) : Bool := 0 < w.unclaimed && w.room / 2 ≤ w.unclaimed

/-- Bytes are read. -/
def read (w : Window) (n : Nat) : Window :=
  let w := { w with unclaimed := w.unclaimed + n }
  if w.isClaiming then ⟨w.room + w.unclaimed, 0⟩ else w

end Window

end GrpcRelay
