/-
  Hexadecimal bytes — two digits a byte, written in lower case and read in
  either case.
-/
import GrpcRelay.Text.Letters

namespace GrpcRelay.Text

/-- The bytes as lower-case hexadecimal digits. -/
def hexOfBytes (b : ByteArray) : String :=
  b.foldl (fun s x => (s.push (hexDigit (x.toNat / 16))).push (hexDigit (x.toNat % 16))) ""

/-- Reads pairs of digits onto the bytes read before; `none` for a stray digit or character. -/
def bytesOfDigits? (read : ByteArray) : List Char → Option ByteArray
  | [] => some read
  | [_] => none
  | hi :: lo :: r =>
    match hexValue? hi, hexValue? lo with
    | some h, some l => bytesOfDigits? (read.push (UInt8.ofNat (h * 16 + l))) r
    | _, _ => none

/-- The bytes that a text of hexadecimal digits stands for. -/
def bytesOfHex? (s : String) : Option ByteArray := bytesOfDigits? ByteArray.empty s.toList

end GrpcRelay.Text
