/-
  ASCII letters and digits — lower case, digits of a base and their values.

  Only the 26 letters of ASCII have a lower case here: names of hosts, schemes
  and metadata keys are compared without regard to that case and no other.
-/
namespace GrpcRelay.Text

/-- The lower case of an ASCII capital; every other character is kept. -/
def lower (c : Char) : Char :=
  if 'A' ≤ c ∧ c ≤ 'Z' then Char.ofNat (c.toNat + 32) else c

/-- A text in ASCII lower case. -/
def lowerText (s : List Char) : List Char := s.map lower

/-- A string in ASCII lower case. -/
def lowerString (s : String) : String := String.ofList (lowerText s.toList)

def isDigit (c : Char) : Bool := '0' ≤ c && c ≤ '9'

def isLetter (c : Char) : Bool := ('a' ≤ c && c ≤ 'z') || ('A' ≤ c && c ≤ 'Z')

/-- The value of a hexadecimal digit of either case. -/
def hexValue? (c : Char) : Option Nat :=
  if '0' ≤ c ∧ c ≤ '9' then some (c.toNat - '0'.toNat)
  else if 'a' ≤ c ∧ c ≤ 'f' then some (c.toNat - 'a'.toNat + 10)
  else if 'A' ≤ c ∧ c ≤ 'F' then some (c.toNat - 'A'.toNat + 10)
  else none

/-- The value of a decimal digit. -/
def digitValue? (c : Char) : Option Nat :=
  if '0' ≤ c ∧ c ≤ '9' then some (c.toNat - '0'.toNat) else none

/-- The lower-case digit of a value below sixteen. -/
def hexDigit (n : Nat) : Char :=
  if n < 10 then Char.ofNat ('0'.toNat + n) else Char.ofNat ('a'.toNat + (n - 10))

/-- The number that a non-empty text of decimal digits, leading zeros allowed, stands for. -/
def decimal? : List Char → Option Nat
  | [] => none
  | s => s.foldl (fun acc c => acc.bind fun n => (digitValue? c).map (n * 10 + ·)) (some 0)

/-- The number that a non-empty text of hexadecimal digits stands for. -/
def hexadecimal? : List Char → Option Nat
  | [] => none
  | s => s.foldl (fun acc c => acc.bind fun n => (hexValue? c).map (n * 16 + ·)) (some 0)

/-- The lower-case hexadecimal text of a number, without leading zeros. -/
def hexText (n : Nat) : List Char := (Nat.toDigits 16 n)

/-- The last `width` lower-case hexadecimal digits of a number. -/
def hexDigits : Nat → Nat → List Char
  | 0, _ => []
  | width + 1, n => hexDigits width (n / 16) ++ [hexDigit (n % 16)]

end GrpcRelay.Text
