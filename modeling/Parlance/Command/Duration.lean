/-
This file writes lengths of time. A length is given in nanoseconds and written in the largest of
four units of which it fills at least one, with as many decimals as it has.
-/

namespace Parlance.Command

/-- A number of units and a fraction of `10 ^ places` parts, without zeros at its end. -/
def decimalText (whole fraction places : Nat) : String :=
  let digits := Nat.toDigits 10 fraction
  let padded := List.replicate (places - digits.length) '0' ++ digits
  let decimals := (padded.reverse.dropWhile (· = '0')).reverse
  if decimals.isEmpty then whole.repr else whole.repr ++ "." ++ String.ofList decimals

/-- The text of a length of time in nanoseconds, in units of `10 ^ places` nanoseconds. -/
def durationIn (unit : String) (places nanoseconds : Nat) : String :=
  let size := Nat.pow 10 places
  decimalText (nanoseconds / size) (nanoseconds % size) places ++ unit

/-- The text of a length of time in nanoseconds. -/
def durationText (nanoseconds : Nat) : String :=
  if 1000000000 ≤ nanoseconds then durationIn "s" 9 nanoseconds
  else if 1000000 ≤ nanoseconds then durationIn "ms" 6 nanoseconds
  else if 1000 ≤ nanoseconds then durationIn "µs" 3 nanoseconds
  else durationIn "ns" 0 nanoseconds

end Parlance.Command
