/-
  Status — the outcome of a call: a code, a message, metadata and details.
-/
import GrpcRelay.Metadata

namespace GrpcRelay

/-- The seventeen codes of a call's outcome. -/
inductive Code where
  | ok
  | cancelled
  | unknown
  | invalidArgument
  | deadlineExceeded
  | notFound
  | alreadyExists
  | permissionDenied
  | resourceExhausted
  | failedPrecondition
  | aborted
  | outOfRange
  | unimplemented
  | internal
  | unavailable
  | dataLoss
  | unauthenticated
  deriving DecidableEq, Repr, Inhabited

namespace Code

/-- The codes in the order of their numbers. -/
def all : List Code :=
  [ok, cancelled, unknown, invalidArgument, deadlineExceeded, notFound, alreadyExists,
    permissionDenied, resourceExhausted, failedPrecondition, aborted, outOfRange, unimplemented,
    internal, unavailable, dataLoss, unauthenticated]

/-- The number of a code on the wire. -/
def number (c : Code) : Nat := all.idxOf c

/-- The code of a number; a number without a code is `unknown`. -/
def ofNumber (n : Nat) : Code := (all[n]?).getD unknown

/-- The name of a code. -/
def name : Code → String
  | ok => "Ok"
  | cancelled => "Cancelled"
  | unknown => "Unknown"
  | invalidArgument => "InvalidArgument"
  | deadlineExceeded => "DeadlineExceeded"
  | notFound => "NotFound"
  | alreadyExists => "AlreadyExists"
  | permissionDenied => "PermissionDenied"
  | resourceExhausted => "ResourceExhausted"
  | failedPrecondition => "FailedPrecondition"
  | aborted => "Aborted"
  | outOfRange => "OutOfRange"
  | unimplemented => "Unimplemented"
  | internal => "Internal"
  | unavailable => "Unavailable"
  | dataLoss => "DataLoss"
  | unauthenticated => "Unauthenticated"

/-- The decimal text of a code's number. -/
def text (c : Code) : String := toString c.number

/-- Reads the text of a number; only the texts of the seventeen codes are known. -/
def ofText (s : String) : Code := (all.find? fun c => c.text == s).getD unknown

end Code

/-- How a call ended. -/
structure Status where
  code : Code
  message : String
  metadata : Metadata
  details : ByteArray
  deriving DecidableEq

namespace Status

/-- A status with a code and a message only. -/
def of (code : Code) (message : String) : Status := ⟨code, message, {}, .empty⟩

/-- A status of code `ok` that carries metadata. -/
def okWith (metadata : Metadata) : Status := ⟨.ok, "", metadata, .empty⟩

instance : Inhabited Status := ⟨of .unknown ""⟩

def isOk (s : Status) : Bool := s.code == .ok

end Status

end GrpcRelay
