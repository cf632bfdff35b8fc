/-
This file holds the numbers of the language, which are those of double precision: a sign with a
magnitude, or the outcome that is not a number. Two numbers agree when they are equal as numbers,
so the two zeros agree and the outcome that is not a number agrees with nothing.
-/

import Parlance.Number.Magnitude

namespace Parlance

/-- A double-precision number. -/
inductive Number where
  /-- The outcome that is not a number. -/
  | nan
  /-- A magnitude with its sign. -/
  | signed (negative : Bool) (magnitude : Magnitude)
deriving DecidableEq

/-- Whether two numbers are equal as numbers. -/
def Number.agrees : Number → Number → Bool
  | .signed negative magnitude, .signed negative' magnitude' =>
    magnitude = magnitude' && (negative == negative' || magnitude = .zero)
  | _, _ => false

end Parlance
