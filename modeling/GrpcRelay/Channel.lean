/-
  Channels — bounded queues between two tasks.

  A channel remembers everything that was put into it and how much of that has
  been taken, so its content is what lies between, and what the receiver has
  seen is a part of what the sender gave by construction.
-/
namespace GrpcRelay

/-- A queue of bounded length with an open or closed end on each side. -/
structure Channel (α : Type) where
  capacity : Nat
  /-- All items put in so far. -/
  given : List α
  /-- How many of them have been taken. -/
  taken : Nat
  senderOpen : Bool
  receiverOpen : Bool
  /-- No more is taken than was put in. -/
  taken_le : taken ≤ given.length
  deriving DecidableEq

namespace Channel

variable {α : Type}

/-- Whether a channel can have this capacity: from 1 to 2305843009213693951. -/
def isCapacity (n : Nat) : Bool := 1 ≤ n && n ≤ 2305843009213693951

/-- An empty channel with both ends open. -/
def ofCapacity (capacity : Nat) : Channel α := ⟨capacity, [], 0, true, true, Nat.le_refl 0⟩

/-- The items that wait to be taken. -/
def queue (c : Channel α) : List α := c.given.drop c.taken

/-- The items that have been taken. -/
def seen (c : Channel α) : List α := c.given.take c.taken

/-- Whether one more item fits. -/
def hasRoom (c : Channel α) : Bool := c.queue.length < c.capacity

/-- Puts an item in. -/
def put (c : Channel α) (a : α) : Channel α :=
  { c with
    given := c.given ++ [a]
    taken_le := by simpa using Nat.le_succ_of_le c.taken_le }

/-- The oldest item that waits, and the channel after it was taken. -/
def take? (c : Channel α) : Option (α × Channel α) :=
  if h : c.taken < c.given.length then some (c.given[c.taken], { c with taken := c.taken + 1, taken_le := h })
  else none

/-- The sender leaves; items that wait can still be taken. -/
def closeSender (c : Channel α) : Channel α := { c with senderOpen := false }

/-- The receiver leaves. -/
def closeReceiver (c : Channel α) : Channel α := { c with receiverOpen := false }

/-- Whether the receiver would see the end: the sender has left and nothing waits. -/
def isAtEnd (c : Channel α) : Bool := !c.senderOpen && c.queue.isEmpty

end Channel

end GrpcRelay
