/-
  Socket addresses — an IP address with a port, an IPv6 address in brackets
  and with an optional scope number.
-/
import GrpcRelay.Net.Ip

namespace GrpcRelay

open Text

/-- Where a peer is reached: address, scope (for IPv6) and port. -/
inductive SocketAddress where
  | v4 (ip : Ipv4) (port : UInt16)
  | v6 (ip : Ipv6) (scope : UInt32) (port : UInt16)
  deriving DecidableEq, Repr

namespace SocketAddress

/-- A port: a decimal number below 65536, leading zeros allowed. -/
def port? (s : List Char) : Option UInt16 :=
  (decimal? s).bind fun n => if n < 65536 then some (UInt16.ofNat n) else none

/-- A scope: a decimal number of 32 bits. -/
def scope? (s : List Char) : Option UInt32 :=
  (decimal? s).bind fun n => if n < 4294967296 then some (UInt32.ofNat n) else none

/-- Address and scope between the brackets. -/
def bracketed? (s : List Char) : Option (Ipv6 × UInt32) :=
  match cutFirst? '%' s with
  | none => (Ipv6.ofText? s).map fun ip => (ip, 0)
  | some (a, n) => do
    let ip ← Ipv6.ofText? a
    let scope ← scope? n
    pure (ip, scope)

/-- Reads `10.0.0.5:80`, `[::1]:80` or `[fe80::1%3]:80`. -/
def ofText? (s : String) : Option SocketAddress :=
  match s.toList with
  | '[' :: r => do
    let (inner, rest) ← cutFirst? ']' r
    let (ip, scope) ← bracketed? inner
    let port ← (after? [':'] rest).bind port?
    pure (v6 ip scope port)
  | r => do
    let (a, p) ← cutFirst? ':' r
    let ip ← Ipv4.ofText? a
    let port ← port? p
    pure (v4 ip port)

/-- The address without scope and port. -/
def ip : SocketAddress → IpAddress
  | v4 ip _ => .v4 ip
  | v6 ip _ _ => .v6 ip

/-- The text of a socket address; a scope of zero is not written. -/
def text : SocketAddress → String
  | v4 ip port => s!"{ip.text}:{port.toNat}"
  | v6 ip scope port =>
    if scope = 0 then s!"[{ip.text}]:{port.toNat}"
    else s!"[{ip.text}%{scope.toNat}]:{port.toNat}"

end SocketAddress

end GrpcRelay
