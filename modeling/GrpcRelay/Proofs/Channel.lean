/-
  Channels — what each operation does to the items that were given, those
  that have been taken and those that wait, of which there are never more than
  the capacity (`Bounded`).
-/
import GrpcRelay.Channel

namespace GrpcRelay.Channel

variable {α : Type} {c c' : Channel α} {a : α}

theorem seen_append_queue (c : Channel α) : c.seen ++ c.queue = c.given := List.take_append_drop _ _

theorem seen_prefix (c : Channel α) : c.seen <+: c.given := List.take_prefix _ _

theorem seen_eq_given (h : c.queue = []) : c.seen = c.given := by
  rw [← c.seen_append_queue, h, List.append_nil]

theorem length_queue (c : Channel α) : c.queue.length = c.given.length - c.taken := List.length_drop

@[simp] theorem given_put (c : Channel α) (a : α) : (c.put a).given = c.given ++ [a] := rfl

@[simp] theorem seen_put (c : Channel α) (a : α) : (c.put a).seen = c.seen :=
  List.take_append_of_le_length c.taken_le

theorem length_queue_put (c : Channel α) (a : α) :
    (c.put a).queue.length = c.queue.length + 1 := by
  have hle := c.taken_le
  rw [length_queue, length_queue, given_put, List.length_append, List.length_singleton]
  show c.given.length + 1 - c.taken = _
  omega

@[simp] theorem given_closeSender (c : Channel α) : c.closeSender.given = c.given := rfl

/-- Taking moves the oldest item that waits to those that were taken. -/
structure Takes (c : Channel α) (a : α) (c' : Channel α) : Prop where
  given : c'.given = c.given
  seen : c'.seen = c.seen ++ [a]
  queue : c.queue = a :: c'.queue
  senderOpen : c'.senderOpen = c.senderOpen
  receiverOpen : c'.receiverOpen = c.receiverOpen
  capacity : c'.capacity = c.capacity

theorem takes_of_take? (h : c.take? = some (a, c')) : c.Takes a c' := by
  unfold take? at h
  split at h
  · next hlt =>
    cases h
    exact ⟨rfl, (List.take_append_getElem hlt).symm, List.drop_eq_getElem_cons hlt, rfl, rfl, rfl⟩
  · cases h

theorem take?_eq_none_iff : c.take? = none ↔ c.queue = [] := by
  rw [← List.length_eq_zero_iff, length_queue, take?]
  split
  · next h => simp; omega
  · next h => simp; omega

/-! ## The capacity -/

variable {n : Nat}

/-- A channel of this capacity in which no more items wait than that. -/
structure Bounded (n : Nat) (c : Channel α) : Prop where
  capacity : c.capacity = n
  le : c.queue.length ≤ n

theorem bounded_ofCapacity (n : Nat) : (ofCapacity n : Channel α).Bounded n := ⟨rfl, Nat.zero_le n⟩

theorem Bounded.closeSender (h : c.Bounded n) : c.closeSender.Bounded n := ⟨h.capacity, h.le⟩

theorem Bounded.closeReceiver (h : c.Bounded n) : c.closeReceiver.Bounded n := ⟨h.capacity, h.le⟩

theorem Bounded.put (h : c.Bounded n) (hr : c.hasRoom = true) (a : α) : (c.put a).Bounded n where
  capacity := h.capacity
  le := by
    have hlt : c.queue.length < c.capacity := by simpa [hasRoom] using hr
    rw [length_queue_put, ← h.capacity]
    exact hlt

theorem Bounded.takes (h : c.Bounded n) (ht : c.Takes a c') : c'.Bounded n where
  capacity := ht.capacity.trans h.capacity
  le := by
    have hle := h.le
    rw [ht.queue, List.length_cons] at hle
    omega

/-- There is no room exactly if the channel is filled to its capacity. -/
theorem Bounded.hasRoom_eq_false_iff (h : c.Bounded n) :
    c.hasRoom = false ↔ c.queue.length = n := by
  have hle := h.le
  rw [hasRoom, decide_eq_false_iff_not, h.capacity]
  omega

end GrpcRelay.Channel
