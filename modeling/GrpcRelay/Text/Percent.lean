/-
  Percent-encoding — a `%` with two hexadecimal digits stands for a byte.

  Decoding takes everything else, a `%` without its digits included, for
  itself.  Encoding escapes the bytes that are not printable ASCII, the space
  and a few marks, with capital digits.
-/
import GrpcRelay.Text.Letters

namespace GrpcRelay.Text

/-- The value of a byte that is the code of a hexadecimal digit. -/
def hexByte? (b : UInt8) : Option Nat := hexValue? (Char.ofNat b.toNat)

/-- The bytes with every well-formed escape decoded. -/
def percentDecode : List UInt8 → List UInt8
  | [] => []
  | [a] => [a]
  | [a, b] => [a, b]
  | a :: b :: c :: r =>
    if a = 0x25 then
      match hexByte? b, hexByte? c with
      | some h, some l => UInt8.ofNat (h * 16 + l) :: percentDecode r
      | _, _ => a :: percentDecode (b :: c :: r)
    else a :: percentDecode (b :: c :: r)

/-- Whether a byte is written as an escape. -/
def isEscaped (b : UInt8) : Bool :=
  b ≤ 0x20 || 0x7F ≤ b || [0x22, 0x23, 0x25, 0x3C, 0x3E, 0x3F, 0x60, 0x7B, 0x7D].contains b

/-- The capital digit of a value below sixteen. -/
def capitalDigit (n : Nat) : Char :=
  if n < 10 then Char.ofNat ('0'.toNat + n) else Char.ofNat ('A'.toNat + (n - 10))

/-- The text of the bytes, with escapes where they are needed. -/
def percentEncode (bytes : List UInt8) : List Char :=
  bytes.flatMap fun b =>
    if isEscaped b then ['%', capitalDigit (b.toNat / 16), capitalDigit (b.toNat % 16)]
    else [Char.ofNat b.toNat]

end GrpcRelay.Text
