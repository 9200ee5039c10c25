/-
  Aborts — the signal that the two loops of a call share.

  An abort has a cell for a reason, which keeps the first one recorded, and a
  signal of its own.  It counts as cancelled when it was signalled or when the
  scope of its call is cancelled; signalling it leaves the scope alone.
  Aborting takes two steps: the reason is recorded first, then the signal is
  given.
-/
import GrpcRelay.Status

namespace GrpcRelay

/-- The reason recorded, if any, and whether the signal was given. -/
structure Abort where
  recorded : Option Status
  signalled : Bool
  deriving DecidableEq

namespace Abort

/-- Nothing has happened. -/
def fresh : Abort := ⟨none, false⟩

instance : Inhabited Abort := ⟨fresh⟩

/-- What a call says that was cancelled from outside. -/
def scopeCancelled : Status := .of .cancelled "call scope cancelled"

/-- Records a reason unless there is one. -/
def record (a : Abort) (s : Status) : Abort :=
  { a with recorded := some (a.recorded.getD s) }

/-- Gives the signal; by itself this records no reason. -/
def signal (a : Abort) : Abort := { a with signalled := true }

/-- Stops both loops because of a status. -/
def abort (a : Abort) (s : Status) : Abort := (a.record s).signal

/-- Why the loops stop. -/
def reason (a : Abort) : Status := a.recorded.getD scopeCancelled

/-- Whether the loops have to stop, given the state of the scope. -/
def isCancelled (a : Abort) (scope : Bool) : Bool := a.signalled || scope

end Abort

end GrpcRelay
