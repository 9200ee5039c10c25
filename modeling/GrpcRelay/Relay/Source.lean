/-
  Sources — the streams that the loops of a call read: frames and failures
  that arrive one by one, an end, and trailers after the end.

  A source remembers all that has arrived and how much of it has been read.
-/
import GrpcRelay.Frame
import GrpcRelay.Status

namespace GrpcRelay

/-- One item of a stream. -/
inductive Item where
  | frame (f : Frame)
  | failure (s : Status)
  deriving DecidableEq

/-- The frame of an item, if it is one. -/
def Item.frame? : Item → Option Frame
  | frame f => some f
  | failure _ => none

/-- What a stream gives after its frames. -/
abbrev Trailers := Except Status (Option Metadata)

/-- A stream that is being read. -/
structure Source where
  /-- All items that have arrived. -/
  arrived : List Item
  /-- How many of them have been read. -/
  read : Nat
  /-- Whether no more items will arrive. -/
  ended : Bool
  /-- What the trailers are once the stream has ended. -/
  trailers : Trailers
  /-- No more is read than has arrived. -/
  read_le : read ≤ arrived.length

/-- What reading a source gives. -/
inductive Reads where
  | item (i : Item)
  | ended
  deriving DecidableEq

namespace Source

/-- An open stream of which nothing has arrived. -/
def empty : Source := ⟨[], 0, false, .ok none, Nat.zero_le _⟩

instance : Inhabited Source := ⟨empty⟩

/-- The items that wait to be read. -/
def queue (s : Source) : List Item := s.arrived.drop s.read

/-- The items that have been read. -/
def seen (s : Source) : List Item := s.arrived.take s.read

/-- The next item, or the end; `none` while there is nothing to read. -/
def next? (s : Source) : Option (Reads × Source) :=
  if h : s.read < s.arrived.length then
    some (.item s.arrived[s.read], { s with read := s.read + 1, read_le := h })
  else if s.ended then some (.ended, s)
  else none

/-- Several items arrive. -/
def pushAll (s : Source) (is : List Item) : Source :=
  { s with
    arrived := s.arrived ++ is
    read_le := by simpa using Nat.le_add_right_of_le s.read_le }

/-- One more item arrives. -/
def push (s : Source) (i : Item) : Source := s.pushAll [i]

/-- The stream ends, with the trailers that it was set up with. -/
def close (s : Source) : Source := { s with ended := true }

/-- The stream ends with these trailers. -/
def closeWith (s : Source) (trailers : Trailers) : Source := { s with ended := true, trailers }

end Source

end GrpcRelay
