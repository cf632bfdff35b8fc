/-
This file holds the magnitudes of double-precision numbers. Written in increasing order they are
numbered by a rank: rank `0` is zero, the first `2 ^ 52` ranks are equally spaced, and from there
on the spacing doubles every `2 ^ 52` ranks. The last rank is infinity. On ranks, rounding a
quotient to the nearest number with ties to even is a search for the greatest rank that the
quotient reaches, in exact arithmetic throughout.
-/

namespace Parlance

/-- How many ranks share one spacing, which is `2 ^ 52`. -/
def Magnitude.stretch : Nat :=
  Nat.pow 2 52

/-- The rank of infinity. -/
def Magnitude.top : Nat :=
  2047 * stretch

/-- A double-precision number without its sign, infinity included. -/
structure Magnitude where
  /-- The place of the number among all of them in increasing order. -/
  rank : Nat
  le_top : rank ≤ Magnitude.top
deriving DecidableEq

namespace Magnitude

/-- The number zero. -/
def zero : Magnitude := ⟨0, Nat.zero_le _⟩

/-- The magnitude above all numbers. -/
def infinity : Magnitude := ⟨top, Nat.le_refl _⟩

/-! ### The number at a rank -/

/-- The number at a rank counted in steps of the spacing there. -/
def mantissa (rank : Nat) : Nat :=
  if rank < stretch then rank else stretch + rank % stretch

/-- How often the spacing at a rank has doubled. -/
def scale (rank : Nat) : Nat :=
  rank / stretch - 1

/-- The number at a rank in units of the least positive number, which is `2 ^ (-1074)`. At the rank
of infinity it is `2 ^ 1024` in these units, the number that the next doubling would begin with. -/
def units (rank : Nat) : Nat :=
  mantissa rank * Nat.pow 2 (scale rank)

/-! ### Rounding -/

/-- Whether the quotient of two numbers rounds to a rank or to one above it: it lies beyond the
middle between the rank and the one below, or in the middle when the rank is even. -/
def reaches (numerator denominator rank : Nat) : Bool :=
  rank == 0 ||
    let middle := (units (rank - 1) + units rank) * denominator
    let quotient := numerator * Nat.pow 2 1075
    middle < quotient || (middle == quotient && rank % 2 == 0)

/-- Whether the quotient of two numbers rounds to a rank. -/
def roundsTo (numerator denominator rank : Nat) : Bool :=
  reaches numerator denominator rank && !reaches numerator denominator (rank + 1)

/-- The greatest number below `found + 2 ^ bits` that has a property, for a property that `found`
has and that passes from each number to all smaller ones. -/
def greatest (holds : Nat → Bool) : (bits found : Nat) → Nat
  | 0, found => found
  | bits + 1, found =>
    let next := found + Nat.pow 2 bits
    if holds next then greatest holds bits next else greatest holds bits found

/-- The magnitude nearest to a quotient of two numbers, the even rank where two are as near. -/
def nearest (numerator denominator : Nat) : Magnitude :=
  let rank := greatest (fun rank => rank ≤ top && reaches numerator denominator rank) 63 0
  ⟨min rank top, Nat.min_le_right ..⟩

end Magnitude

end Parlance
