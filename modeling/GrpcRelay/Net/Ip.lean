/-
  IP addresses — IPv4 and IPv6 addresses, their text in both directions and
  the canonical form of an IPv6 address that only wraps an IPv4 one.

  An IPv4 address is four decimal numbers without leading zeros.  An IPv6
  address is eight groups of one to four hexadecimal digits; `::` stands for
  one or more groups of zeros, and the last two groups may be written as an
  IPv4 address.  The text of an IPv6 address shortens the longest run of at
  least two zero groups, the first of equals.
-/
import GrpcRelay.Text.Cut
import GrpcRelay.Text.Letters

namespace GrpcRelay

open Text

/-- An IPv4 address. -/
structure Ipv4 where
  a : UInt8
  b : UInt8
  c : UInt8
  d : UInt8
  deriving DecidableEq, Repr

/-- An IPv6 address: eight groups of sixteen bits. -/
structure Ipv6 where
  groups : List UInt16
  length_groups : groups.length = 8
  deriving DecidableEq, Repr

/-- An IP address of either version. -/
inductive IpAddress where
  | v4 (address : Ipv4)
  | v6 (address : Ipv6)
  deriving DecidableEq, Repr

namespace Ipv4

/-- One number of an address: at most three digits, no leading zero, at most 255. -/
def octet? (s : List Char) : Option UInt8 :=
  if s.length ≤ 3 ∧ (s.length = 1 ∨ s.head? ≠ some '0') then
    (decimal? s).bind fun n => if n < 256 then some (UInt8.ofNat n) else none
  else none

/-- Reads a text such as `10.0.0.5`. -/
def ofText? (s : List Char) : Option Ipv4 :=
  match (pieces '.' s).mapM octet? with
  | some [a, b, c, d] => some ⟨a, b, c, d⟩
  | _ => none

/-- The text of an address. -/
def text (ip : Ipv4) : String :=
  s!"{ip.a.toNat}.{ip.b.toNat}.{ip.c.toNat}.{ip.d.toNat}"

/-- The last two groups of an IPv6 address that end in an IPv4 one. -/
def groups (ip : Ipv4) : List UInt16 :=
  [UInt16.ofNat (ip.a.toNat * 256 + ip.b.toNat), UInt16.ofNat (ip.c.toNat * 256 + ip.d.toNat)]

end Ipv4

namespace Ipv6

/-- One group: one to four hexadecimal digits. -/
def group? (s : List Char) : Option UInt16 :=
  if s.length ≤ 4 then (hexadecimal? s).map UInt16.ofNat else none

/-- Groups between colons; with `tail`, the last may be an IPv4 address. -/
def groups? (tail : Bool) : List (List Char) → Option (List UInt16)
  | [] => some []
  | [s] =>
    match group? s with
    | some g => some [g]
    | none => if tail then (Ipv4.ofText? s).map Ipv4.groups else none
  | s :: r => do
    let g ← group? s
    let gs ← groups? tail r
    pure (g :: gs)

/-- Groups of a side of `::`, which may be empty. -/
def side? (tail : Bool) : List Char → Option (List UInt16)
  | [] => some []
  | s => groups? tail (pieces ':' s)

/-- The text before and after the first `::`. -/
def cutGap? : List Char → Option (List Char × List Char)
  | [] => none
  | c :: r =>
    match c, r with
    | ':', ':' :: s => some ([], s)
    | _, _ => (cutGap? r).map fun p => (c :: p.1, p.2)

/-- An address of the given groups, if there are eight. -/
def ofGroups? (groups : List UInt16) : Option Ipv6 :=
  if h : groups.length = 8 then some ⟨groups, h⟩ else none

/-- Reads a text such as `fe80::1` or `::ffff:10.0.0.5`. -/
def ofText? (s : List Char) : Option Ipv6 :=
  match cutGap? s with
  | none => (groups? true (pieces ':' s)).bind ofGroups?
  | some (l, r) => do
    let head ← side? false l
    let tail ← side? true r
    if head.length + tail.length ≤ 7 then
      ofGroups? (head ++ List.replicate (8 - (head.length + tail.length)) 0 ++ tail)
    else none

/-- The IPv4 address that an address of the form `::ffff:a.b.c.d` wraps. -/
def mapped? (ip : Ipv6) : Option Ipv4 :=
  match ip.groups with
  | [0, 0, 0, 0, 0, 0xFFFF, x, y] =>
    some ⟨UInt8.ofNat (x.toNat / 256), UInt8.ofNat (x.toNat % 256),
      UInt8.ofNat (y.toNat / 256), UInt8.ofNat (y.toNat % 256)⟩
  | _ => none

/-- Start and length of the longest run of zeros, the first of equals. -/
def zeroRun (groups : List UInt16) : Nat × Nat :=
  (List.range groups.length).foldl (fun best i =>
    let n := ((groups.drop i).takeWhile (· == 0)).length
    if best.2 < n then (i, n) else best) (0, 0)

/-- Groups in hexadecimal, joined by colons. -/
def groupText (groups : List UInt16) : String :=
  ":".intercalate (groups.map fun g => String.ofList (hexText g.toNat))

/-- The text of an address. -/
def text (ip : Ipv6) : String :=
  match ip.mapped? with
  | some v4 => "::ffff:" ++ v4.text
  | none =>
    let (start, n) := zeroRun ip.groups
    if 2 ≤ n then
      groupText (ip.groups.take start) ++ "::" ++ groupText (ip.groups.drop (start + n))
    else groupText ip.groups

end Ipv6

namespace IpAddress

/-- The text of an address. -/
def text : IpAddress → String
  | v4 ip => ip.text
  | v6 ip => ip.text

/-- The address itself, or the IPv4 address that it wraps. -/
def canonical : IpAddress → IpAddress
  | v4 ip => v4 ip
  | v6 ip =>
    match ip.mapped? with
    | some inner => v4 inner
    | none => v6 ip

end IpAddress

end GrpcRelay
