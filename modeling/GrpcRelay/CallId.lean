/-
  Call identifiers — numbers of 128 bits, written in five groups of
  hexadecimal digits.
-/
import GrpcRelay.Text.Letters

namespace GrpcRelay

/-- The identifier of a call. -/
structure CallId where
  number : Nat
  deriving DecidableEq, Repr

/-- The text of an identifier: groups of 8, 4, 4, 4 and 12 digits. -/
def CallId.text (id : CallId) : String :=
  let digits := Text.hexDigits 32 id.number
  let group (start length : Nat) : String := .ofList ((digits.drop start).take length)
  "-".intercalate [group 0 8, group 8 4, group 12 4, group 16 4, group 20 12]

end GrpcRelay
