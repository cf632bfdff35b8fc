/-
This file reads numbers from text. A numeral has digits with at most one point among them, at
least one digit, and may end in a power of ten; its value is rounded to the nearest number. The
words for infinity and for what is not a number are known in any case, and each form may carry a
sign.
-/

import Parlance.Number.Basic

namespace Parlance

/-- The number that a row of decimal digits denotes. -/
def natOfDigits (digits : List Char) : Nat :=
  digits.foldl (fun value digit => 10 * value + (digit.toNat - '0'.toNat)) 0

/-- A sign and what follows it. Without a sign a number is positive. -/
def splitSign : List Char → Bool × List Char
  | '-' :: rest => (true, rest)
  | '+' :: rest => (false, rest)
  | text => (false, text)

/-- A decimal number `coefficient * 10 ^ exponent`. -/
structure Numeral where
  coefficient : Nat
  exponent : Int
deriving DecidableEq

namespace Numeral

/-- The power of ten at the end of a numeral, which is `0` where none is written. -/
def exponentOf? : List Char → Option Int
  | [] => some 0
  | mark :: rest =>
    let (negative, digits) := splitSign rest
    if (mark = 'e' || mark = 'E') && !digits.isEmpty && digits.all Char.isDigit then
      let size := Int.ofNat (natOfDigits digits)
      some (if negative then -size else size)
    else none

/-- Reads a numeral without a sign. -/
def ofText? (text : List Char) : Option Numeral :=
  let whole := text.takeWhile Char.isDigit
  let afterWhole := text.dropWhile Char.isDigit
  let (fraction, rest) :=
    match afterWhole with
    | '.' :: more => (more.takeWhile Char.isDigit, more.dropWhile Char.isDigit)
    | _ => ([], afterWhole)
  let digits := whole ++ fraction
  if digits.isEmpty then none
  else (exponentOf? rest).map fun exponent =>
    ⟨natOfDigits digits, exponent - fraction.length⟩

/-- The magnitude nearest to a numeral. A numeral of `10 ^ 310` or more is above every finite
number and one below `10 ^ (-330)` is nearest to zero; both are settled before any power of ten is
computed. -/
def magnitude (numeral : Numeral) : Magnitude :=
  let size := (Nat.toDigits 10 numeral.coefficient).length + numeral.exponent
  if numeral.coefficient = 0 then .zero
  else if 310 < size then .infinity
  else if size < -330 then .zero
  else if 0 ≤ numeral.exponent then
    .nearest (numeral.coefficient * Nat.pow 10 numeral.exponent.toNat) 1
  else .nearest numeral.coefficient (Nat.pow 10 (-numeral.exponent).toNat)

end Numeral

/-- Reads a number, or finds that the text denotes none. -/
def Number.ofText? (text : List Char) : Option Number :=
  let (negative, body) := splitSign text
  let word := String.ofList (body.map Char.toLower)
  if word = "nan" then some .nan
  else if word = "inf" || word = "infinity" then some (.signed negative .infinity)
  else (Numeral.ofText? body).map fun numeral => .signed negative numeral.magnitude

end Parlance
