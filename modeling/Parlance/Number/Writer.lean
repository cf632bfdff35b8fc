/-
This file writes numbers as text: the fewest digits that read back as the number, of two such
rows of digits the nearer one, and the larger one where both are as near. All digits stand at
their places, without a power of ten at the end, and a whole number has no point.
-/

import Parlance.Number.Basic

namespace Parlance

namespace Magnitude

/-- The exact decimal form `(coefficient, places)` of the number at a rank, which denotes
`coefficient / 10 ^ places`. -/
def exactDecimal (rank : Nat) : Nat × Nat :=
  if 1074 ≤ scale rank then (mantissa rank * Nat.pow 2 (scale rank - 1074), 0)
  else (mantissa rank * Nat.pow 5 (1074 - scale rank), 1074 - scale rank)

/-- Of the two multiples of `grain` around a coefficient the nearer one that reads back as the
rank, if one of them does. -/
def atGrain? (rank coefficient places grain : Nat) : Option Nat :=
  let low := coefficient / grain * grain
  let high := low + grain
  let candidates := if coefficient - low < high - coefficient then [low, high] else [high, low]
  candidates.find? fun candidate => roundsTo candidate (Nat.pow 10 places) rank

/-- The coefficient with the fewest digits that reads back as the rank, tried from the coarsest
grain `10 ^ power` down to the exact coefficient. -/
def shortest (rank coefficient places : Nat) : (power : Nat) → Nat
  | 0 => coefficient
  | power + 1 =>
    match atGrain? rank coefficient places (Nat.pow 10 (power + 1)) with
    | some candidate => candidate
    | none => shortest rank coefficient places power

/-- Writes `coefficient / 10 ^ places` with all its digits and no zeros at the end of a fraction. -/
def positional (coefficient places : Nat) : List Char :=
  let digits := Nat.toDigits 10 (coefficient % Nat.pow 10 places)
  let padded := List.replicate (places - digits.length) '0' ++ digits
  let fraction := (padded.reverse.dropWhile (· = '0')).reverse
  let whole := Nat.toDigits 10 (coefficient / Nat.pow 10 places)
  if fraction.isEmpty then whole else whole ++ '.' :: fraction

/-- The text of a magnitude. -/
def text (magnitude : Magnitude) : List Char :=
  if magnitude = infinity then "inf".toList
  else
    let (coefficient, places) := exactDecimal magnitude.rank
    let power := (Nat.toDigits 10 coefficient).length - 1
    positional (shortest magnitude.rank coefficient places power) places

end Magnitude

/-- The text of a number. -/
def Number.text : Number → String
  | .nan => "NaN"
  | .signed negative magnitude =>
    String.ofList (if negative then '-' :: magnitude.text else magnitude.text)

end Parlance
