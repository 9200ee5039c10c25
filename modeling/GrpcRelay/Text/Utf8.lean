/-
  UTF-8 — the place and the kind of the first fault in a sequence of bytes.

  A fault is the longest start of a character that no further byte can
  complete (one to three bytes), or a character that the end of the text cuts
  off.
-/
namespace GrpcRelay.Text

/-- What is wrong with bytes that are no UTF-8 text. -/
inductive Utf8Fault where
  /-- `length` bytes from `index` on begin no character. -/
  | invalid (length index : Nat)
  /-- The character that begins at `index` is cut off by the end. -/
  | incomplete (index : Nat)
  deriving DecidableEq, Repr

/-- The wording of a fault. -/
def Utf8Fault.message : Utf8Fault → String
  | .invalid length index => s!"invalid utf-8 sequence of {length} bytes from index {index}"
  | .incomplete index => s!"incomplete utf-8 byte sequence from index {index}"

/-- The range of the second byte and the number of bytes, by a character's first byte. -/
def utf8Lead (b : UInt8) : Option (UInt8 × UInt8 × Nat) :=
  if b < 0x80 then some (0, 0, 1)
  else if b < 0xC2 then none
  else if b < 0xE0 then some (0x80, 0xBF, 2)
  else if b = 0xE0 then some (0xA0, 0xBF, 3)
  else if b = 0xED then some (0x80, 0x9F, 3)
  else if b < 0xF0 then some (0x80, 0xBF, 3)
  else if b = 0xF0 then some (0x90, 0xBF, 4)
  else if b < 0xF4 then some (0x80, 0xBF, 4)
  else if b = 0xF4 then some (0x80, 0x8F, 4)
  else none

/-- Reads the `owed` bytes that complete a character after `seen` bytes, the next of them between
    `lo` and `hi` and the rest plain tails: how many bytes the character has, or its fault. -/
def utf8Tail (index seen : Nat) (lo hi : UInt8) : Nat → List UInt8 → Except Utf8Fault Nat
  | 0, _ => .ok seen
  | _ + 1, [] => .error (.incomplete index)
  | owed + 1, b :: r =>
    if lo ≤ b ∧ b ≤ hi then utf8Tail index (seen + 1) 0x80 0xBF owed r
    else .error (.invalid seen index)

/-- The first fault of the bytes from `index` on, reading at most `fuel` characters. -/
def utf8FaultFrom : Nat → Nat → List UInt8 → Option Utf8Fault
  | 0, _, _ => none
  | _ + 1, _, [] => none
  | fuel + 1, index, b :: r =>
    match utf8Lead b with
    | none => some (.invalid 1 index)
    | some (lo, hi, n) =>
      match utf8Tail index 1 lo hi (n - 1) r with
      | .error f => some f
      | .ok k => utf8FaultFrom fuel (index + k) (r.drop (k - 1))

/-- The first fault of the bytes, if they are not UTF-8. -/
def utf8Fault? (bytes : List UInt8) : Option Utf8Fault := utf8FaultFrom bytes.length 0 bytes

/-- The text that UTF-8 bytes stand for, or their first fault. -/
def decodeUtf8 (bytes : List UInt8) : Except Utf8Fault String :=
  match utf8Fault? bytes with
  | some f => .error f
  | none => .ok ((String.fromUTF8? ⟨bytes.toArray⟩).getD "")

end GrpcRelay.Text
