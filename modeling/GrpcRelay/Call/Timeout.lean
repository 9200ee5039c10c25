/-
  Request timeouts — the `grpc-timeout` header, up to eight digits and a unit.
-/
import GrpcRelay.Duration
import GrpcRelay.Metadata
import GrpcRelay.Text.Letters

namespace GrpcRelay

/-- The nanoseconds in a unit: hours, minutes, seconds, and their smaller parts. -/
def timeoutUnit? : Char → Option Nat
  | 'H' => some 3600000000000
  | 'M' => some 60000000000
  | 'S' => some 1000000000
  | 'm' => some 1000000
  | 'u' => some 1000
  | 'n' => some 1
  | _ => none

/-- The number before the unit; a plus sign may stand in front. -/
def timeoutNumber? (s : List Char) : Option Nat :=
  if 8 < s.length then none
  else
    match s with
    | '+' :: r => Text.decimal? r
    | _ => Text.decimal? s

/-- Reads a timeout; a malformed one is `none`. -/
def Duration.ofTimeout? (s : String) : Option Duration := do
  let unit ← s.toList.getLast?.bind timeoutUnit?
  let n ← timeoutNumber? s.toList.dropLast
  pure ⟨n * unit⟩

/-- The timeout that the metadata of a request sets. -/
def Metadata.timeout? (m : Metadata) : Option Duration :=
  (m.firstText? "grpc-timeout").bind Duration.ofTimeout?

end GrpcRelay
