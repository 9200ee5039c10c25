/-
  Bytes — how two sequences of bytes are told apart.
-/
namespace GrpcRelay

/-- Sequences of bytes are compared as arrays, wherever a type holds them. -/
instance (priority := 1100) decidableEqBytes : DecidableEq ByteArray := ByteArray.instDecidableEq

end GrpcRelay
