/-
  Durations — whole nanoseconds, and their text in the largest unit that has a
  whole part.
-/
namespace GrpcRelay

/-- A span of time in nanoseconds. -/
structure Duration where
  nanos : Nat
  deriving DecidableEq, Repr

namespace Duration

/-- Nanoseconds in a second. -/
def second : Nat := 1000000000

/-- Nanoseconds in a millisecond. -/
def milli : Nat := 1000000

/-- Nanoseconds in a microsecond. -/
def micro : Nat := 1000

def ofMillis (n : Nat) : Duration := ⟨n * milli⟩

/-- The digits of `n` with zeros in front up to `width`, without the zeros at the end. -/
def fractionDigits (width n : Nat) : List Char :=
  let digits := Nat.toDigits 10 n
  let padded := List.replicate (width - digits.length) '0' ++ digits
  (padded.reverse.dropWhile (· = '0')).reverse

/-- `n` in terms of `unit`, a one with so many zeros: exactly, and without zeros at the end. -/
def decimalText (zeros unit n : Nat) : String :=
  let point := if n % unit = 0 then [] else '.' :: fractionDigits zeros (n % unit)
  toString (n / unit) ++ String.ofList point

/-- The text in s, ms, µs or ns: the largest of these units with a whole part that is not zero. -/
def text (d : Duration) : String :=
  if second ≤ d.nanos then decimalText 9 second d.nanos ++ "s"
  else if milli ≤ d.nanos then decimalText 6 milli d.nanos ++ "ms"
  else if micro ≤ d.nanos then decimalText 3 micro d.nanos ++ "µs"
  else toString d.nanos ++ "ns"

end Duration

end GrpcRelay
