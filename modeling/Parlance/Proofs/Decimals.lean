/-
This file proves that the text of a number tells it from every other finite number. A number is
written as a decimal that rounds to it, so it is enough that a text tells which decimal it is, and
that a decimal rounds to one number only. The first is read off the digits on either side of the
point, where the zeros missing at the end of a fraction make no difference. The second holds as
numbers increase with their rank, so that a quotient which reaches a rank reaches all those below.
-/

import Mathlib.Tactic.Ring
import Parlance.Number.Writer
import Parlance.Proofs.Spelling

namespace Parlance

namespace Magnitude

/-! ### Numbers in increasing order -/

theorem stretch_pos : 0 < stretch :=
  Nat.pow_pos (by decide)

theorem units_of_lt {rank : Nat} (low : rank < stretch) : units rank = rank := by
  rw [units, mantissa, if_pos low, scale, Nat.div_eq_of_lt low]
  exact Nat.mul_one rank

/-- The numbers of one spacing. -/
theorem units_of_spacing (doublings : Nat) {step : Nat} (inside : step < stretch) :
    units (stretch * (doublings + 1) + step) = (stretch + step) * 2 ^ doublings := by
  have beyond : ¬stretch * (doublings + 1) + step < stretch := by
    have least : stretch * 1 ≤ stretch * (doublings + 1) := Nat.mul_le_mul_left _ (by omega)
    omega
  rw [units, mantissa, if_neg beyond, scale, Nat.mul_add_mod, Nat.mod_eq_of_lt inside,
    Nat.mul_add_div stretch_pos, Nat.div_eq_of_lt inside]
  rfl

theorem units_lt_units_succ (rank : Nat) : units rank < units (rank + 1) := by
  by_cases low : rank + 1 < stretch
  · rw [units_of_lt low, units_of_lt (Nat.lt_of_succ_lt low)]
    exact Nat.lt_succ_self rank
  by_cases last : rank + 1 = stretch
  · have next : units (rank + 1) = rank + 1 := by
      have first := units_of_spacing 0 stretch_pos
      rw [Nat.mul_one, Nat.add_zero, Nat.pow_zero, Nat.mul_one, ← last] at first
      exact first
    rw [next, units_of_lt (by omega)]
    exact Nat.lt_succ_self rank
  -- From here on the spacing at the rank is `2 ^ doublings`, and the next rank is one spacing up.
  obtain ⟨doublings, quotient⟩ : ∃ doublings, rank / stretch = doublings + 1 :=
    Nat.exists_eq_succ_of_ne_zero (Nat.div_ne_zero_iff.mpr ⟨stretch_pos.ne', by omega⟩)
  have inside := Nat.mod_lt rank stretch_pos
  have position := Nat.div_add_mod rank stretch
  rw [quotient] at position
  have positive : 0 < 2 ^ doublings := Nat.two_pow_pos doublings
  rw [← position, units_of_spacing doublings inside, Nat.add_assoc]
  by_cases room : rank % stretch + 1 < stretch
  · rw [units_of_spacing doublings room]
    exact Nat.mul_lt_mul_of_pos_right (by omega) positive
  · have full : stretch * (doublings + 1) + (rank % stretch + 1) =
        stretch * (doublings + 1 + 1) + 0 := by
      rw [Nat.mul_succ _ (doublings + 1)]
      omega
    rw [full, units_of_spacing (doublings + 1) stretch_pos, Nat.add_zero, Nat.pow_succ,
      Nat.mul_comm (2 ^ doublings), ← Nat.mul_assoc]
    exact Nat.mul_lt_mul_of_pos_right (by omega) positive

/-! ### A quotient rounds to one rank -/

/-- The number one in units of the least positive number. -/
@[irreducible]
def one : Nat :=
  2 ^ 1074

/-- The exponent is a variable here, as powers this large should not be computed. -/
theorem one_eq {exponent : Nat} (isExponent : 1074 = exponent) : one = 2 ^ exponent := by
  subst isExponent
  decide +kernel

theorem pow_eq_one_mul_two : Nat.pow 2 1075 = one * 2 := by
  decide +kernel

variable {numerator denominator rank : Nat}

/-- A quotient reaches a rank above zero if twice the quotient is beyond the sum of the numbers at
this rank and at the one below. -/
theorem reaches_succ_iff : reaches numerator denominator (rank + 1) = true ↔
    (units rank + units (rank + 1)) * denominator < numerator * (one * 2) ∨
      (units rank + units (rank + 1)) * denominator = numerator * (one * 2) ∧
        (rank + 1) % 2 = 0 := by
  simp only [reaches, pow_eq_one_mul_two, Nat.add_sub_cancel, Bool.or_eq_true, Bool.and_eq_true,
    beq_iff_eq, decide_eq_true_eq, Nat.add_one_ne_zero, false_or]

theorem reaches_of_reaches_succ (positive : 0 < denominator)
    (reached : reaches numerator denominator (rank + 1) = true) :
    reaches numerator denominator rank = true := by
  cases rank with
  | zero => rfl
  | succ rank =>
    have middles : (units rank + units (rank + 1)) * denominator <
        (units (rank + 1) + units (rank + 1 + 1)) * denominator := by
      have below := units_lt_units_succ rank
      have above := units_lt_units_succ (rank + 1)
      exact Nat.mul_lt_mul_of_pos_right (by omega) positive
    refine reaches_succ_iff.mpr (.inl ?_)
    rcases reaches_succ_iff.mp reached with less | ⟨equal, -⟩
    · exact middles.trans less
    · exact middles.trans_eq equal

theorem reaches_of_le {rank' : Nat} (positive : 0 < denominator) (below : rank ≤ rank')
    (reached : reaches numerator denominator rank' = true) :
    reaches numerator denominator rank = true := by
  induction below with
  | refl => exact reached
  | step _ inductionHypothesis =>
    exact inductionHypothesis (reaches_of_reaches_succ positive reached)

theorem roundsTo_iff : roundsTo numerator denominator rank = true ↔
    reaches numerator denominator rank = true ∧
      ¬reaches numerator denominator (rank + 1) = true := by
  rw [roundsTo, Bool.and_eq_true, Bool.not_eq_true', Bool.not_eq_true]

/-- A quotient rounds to one rank only. -/
theorem eq_of_roundsTo {rank' : Nat} (positive : 0 < denominator)
    (rounds : roundsTo numerator denominator rank = true)
    (rounds' : roundsTo numerator denominator rank' = true) : rank = rank' := by
  obtain ⟨reached, exceeded⟩ := roundsTo_iff.mp rounds
  obtain ⟨reached', exceeded'⟩ := roundsTo_iff.mp rounds'
  rcases Nat.lt_trichotomy rank rank' with below | same | above
  · exact absurd (reaches_of_le positive below reached') exceeded
  · exact same
  · exact absurd (reaches_of_le positive above reached) exceeded'

/-- Whether a quotient reaches a rank depends on its value only. -/
theorem reaches_of_quotient {numerator' denominator' : Nat} (positive : 0 < denominator)
    (positive' : 0 < denominator') (same : numerator * denominator' = numerator' * denominator) :
    reaches numerator denominator rank = true ↔ reaches numerator' denominator' rank = true := by
  cases rank with
  | zero => exact iff_of_true rfl rfl
  | succ rank =>
    rw [reaches_succ_iff, reaches_succ_iff]
    generalize units rank + units (rank + 1) = middle
    generalize one * 2 = unit
    have scaled : numerator * unit * denominator' = numerator' * unit * denominator := by
      rw [Nat.mul_right_comm, same, Nat.mul_right_comm]
    have swapped : middle * denominator * denominator' = middle * denominator' * denominator :=
      Nat.mul_right_comm ..
    have less : middle * denominator < numerator * unit ↔
        middle * denominator' < numerator' * unit := by
      rw [← Nat.mul_lt_mul_right positive', swapped, scaled, Nat.mul_lt_mul_right positive]
    have equal : middle * denominator = numerator * unit ↔
        middle * denominator' = numerator' * unit := by
      rw [← Nat.mul_left_inj positive'.ne', swapped, scaled, Nat.mul_left_inj positive.ne']
    rw [less, equal]

theorem roundsTo_of_quotient {numerator' denominator' : Nat} (positive : 0 < denominator)
    (positive' : 0 < denominator') (same : numerator * denominator' = numerator' * denominator)
    (rounds : roundsTo numerator denominator rank = true) :
    roundsTo numerator' denominator' rank = true := by
  rw [roundsTo_iff, reaches_of_quotient positive positive' same,
    reaches_of_quotient positive positive' same] at rounds
  exact roundsTo_iff.mpr rounds

/-! ### A number is written as a decimal that rounds to it -/

theorem ten_pow_pos (places : Nat) : 0 < 10 ^ places :=
  Nat.pow_pos (by decide)

theorem exactDecimal_mul (rank : Nat) :
    (exactDecimal rank).1 * one = units rank * 10 ^ (exactDecimal rank).2 := by
  unfold exactDecimal units
  generalize isExponent : 1074 = exponent
  rw [one_eq isExponent]
  generalize mantissa rank = mantissa
  split
  · rename_i large
    obtain ⟨more, equal⟩ := Nat.exists_eq_add_of_le large
    rw [equal, Nat.add_sub_cancel_left]
    show mantissa * 2 ^ more * 2 ^ exponent = mantissa * 2 ^ (exponent + more) * 10 ^ 0
    ring
  · rename_i small
    obtain ⟨places, equal⟩ := Nat.exists_eq_add_of_le (Nat.le_of_not_le small)
    rw [equal, Nat.add_sub_cancel_left]
    show mantissa * 5 ^ places * 2 ^ (scale rank + places) =
      mantissa * 2 ^ scale rank * (5 * 2) ^ places
    rw [Nat.mul_pow]
    ring

theorem roundsTo_exactDecimal (rank : Nat) :
    roundsTo (exactDecimal rank).1 (10 ^ (exactDecimal rank).2) rank = true := by
  have exact := exactDecimal_mul rank
  have positive := ten_pow_pos (exactDecimal rank).2
  generalize exactDecimal rank = decimal at exact positive ⊢
  obtain ⟨coefficient, places⟩ := decimal
  have twice : coefficient * (one * 2) = (units rank + units rank) * 10 ^ places := by
    rw [← Nat.mul_assoc, exact]
    ring
  refine roundsTo_iff.mpr ⟨?_, fun reached => ?_⟩
  · cases rank with
    | zero => rfl
    | succ rank =>
      refine reaches_succ_iff.mpr (.inl ?_)
      rw [twice]
      exact Nat.mul_lt_mul_of_pos_right (Nat.add_lt_add_right (units_lt_units_succ rank) _) positive
  · have above : (units rank + units rank) * 10 ^ places <
        (units rank + units (rank + 1)) * 10 ^ places :=
      Nat.mul_lt_mul_of_pos_right (Nat.add_lt_add_left (units_lt_units_succ rank) _) positive
    rw [reaches_succ_iff, twice] at reached
    rcases reached with less | ⟨equal, -⟩
    · exact Nat.lt_asymm less above
    · exact above.ne' equal

theorem roundsTo_shortest {coefficient places : Nat}
    (rounds : roundsTo coefficient (10 ^ places) rank = true) (power : Nat) :
    roundsTo (shortest rank coefficient places power) (10 ^ places) rank = true := by
  induction power with
  | zero => exact rounds
  | succ power inductionHypothesis =>
    rw [shortest]
    split
    · rename_i candidate found
      exact List.find?_some (p := fun candidate => roundsTo candidate (10 ^ places) rank) found
    · exact inductionHypothesis

/-! ### A text tells which decimal it is -/

/-- The digits of `coefficient / 10 ^ places` in front of the point. -/
def wholeDigits (coefficient places : Nat) : List Char :=
  Nat.toDigits 10 (coefficient / 10 ^ places)

/-- The digits of `coefficient / 10 ^ places` behind the point, as many as there are places. -/
def allDigits (coefficient places : Nat) : List Char :=
  let digits := Nat.toDigits 10 (coefficient % 10 ^ places)
  List.replicate (places - digits.length) '0' ++ digits

/-- The digits of `coefficient / 10 ^ places` behind the point, without zeros at the end. -/
def fractionDigits (coefficient places : Nat) : List Char :=
  ((allDigits coefficient places).reverse.dropWhile (· = '0')).reverse

theorem positional_eq (coefficient places : Nat) : positional coefficient places =
    wholeDigits coefficient places ++
      if (fractionDigits coefficient places).isEmpty then []
      else '.' :: fractionDigits coefficient places := by
  have unfolded : positional coefficient places =
      if (fractionDigits coefficient places).isEmpty then wholeDigits coefficient places
      else wholeDigits coefficient places ++ '.' :: fractionDigits coefficient places := rfl
  rw [unfolded]
  split
  · rw [List.append_nil]
  · rfl

theorem isDigit_of_mem_wholeDigits {coefficient places : Nat} :
    ∀ c ∈ wholeDigits coefficient places, c.isDigit = true :=
  fun _ => Nat.isDigit_of_mem_toDigits (by decide) (by decide)

theorem exists_allDigits_eq (coefficient places : Nat) : ∃ zeros,
    allDigits coefficient places = fractionDigits coefficient places ++
      List.replicate zeros '0' := by
  refine ⟨((allDigits coefficient places).reverse.takeWhile (· = '0')).length, ?_⟩
  have zeros : ((allDigits coefficient places).reverse.takeWhile (· = '0')).reverse =
      List.replicate ((allDigits coefficient places).reverse.takeWhile (· = '0')).length '0' := by
    refine List.eq_replicate_iff.mpr ⟨List.length_reverse, fun c member => ?_⟩
    exact of_decide_eq_true (Cut.mem_takeWhile c (List.mem_reverse.mp member))
  rw [fractionDigits, ← zeros, ← List.reverse_append, List.takeWhile_append_dropWhile,
    List.reverse_reverse]

theorem isDigit_of_mem_fractionDigits {coefficient places : Nat} :
    ∀ c ∈ fractionDigits coefficient places, c.isDigit = true := by
  intro c member
  obtain ⟨zeros, equal⟩ := exists_allDigits_eq coefficient places
  have member : c ∈ allDigits coefficient places := by
    rw [equal]
    exact List.mem_append_left _ member
  rcases List.mem_append.mp member with zero | digit
  · rw [List.eq_of_mem_replicate zero]
    rfl
  · exact Nat.isDigit_of_mem_toDigits (by decide) (by decide) digit

theorem ofDigitChars_allDigits (coefficient places : Nat) :
    Nat.ofDigitChars 10 (allDigits coefficient places) 0 = coefficient % 10 ^ places := by
  rw [allDigits, Nat.ofDigitChars_append, Nat.ofDigitChars_replicate_zero, Nat.mul_zero,
    Nat.ofDigitChars_toDigits (by decide) (by decide)]

theorem length_allDigits {coefficient places : Nat} (some : 0 < places) :
    (allDigits coefficient places).length = places := by
  have fits : (Nat.toDigits 10 (coefficient % 10 ^ places)).length ≤ places :=
    (Nat.length_toDigits_le_iff (by decide) some).mpr (Nat.mod_lt _ (ten_pow_pos places))
  rw [allDigits, List.length_append, List.length_replicate]
  omega

/-- The digits of a fraction denote it, however many zeros are missing at their end. -/
theorem fractionDigits_mul (coefficient places : Nat) :
    coefficient % 10 ^ places * 10 ^ (fractionDigits coefficient places).length =
      Nat.ofDigitChars 10 (fractionDigits coefficient places) 0 * 10 ^ places := by
  obtain ⟨zeros, equal⟩ := exists_allDigits_eq coefficient places
  have value := ofDigitChars_allDigits coefficient places
  rw [equal, Nat.ofDigitChars_append, Nat.ofDigitChars_replicate_zero] at value
  cases places with
  | zero =>
    rw [Nat.pow_zero, Nat.mod_one] at value
    rw [Nat.pow_zero, Nat.mod_one, Nat.zero_mul, Nat.mul_one]
    exact ((Nat.mul_eq_zero.mp value).resolve_left (ten_pow_pos zeros).ne').symm
  | succ places =>
    have length := congrArg List.length equal
    rw [length_allDigits (Nat.succ_pos places), List.length_append, List.length_replicate] at length
    have split : 10 ^ (places + 1) =
        10 ^ (fractionDigits coefficient (places + 1)).length * 10 ^ zeros := by
      rw [← Nat.pow_add, ← length]
    rw [← value, split]
    ring

/-- Two decimals with the same text have the same digits on either side of the point. -/
theorem digits_eq_of_positional_eq {coefficient places coefficient' places' : Nat}
    (same : positional coefficient places = positional coefficient' places') :
    wholeDigits coefficient places = wholeDigits coefficient' places' ∧
      fractionDigits coefficient places = fractionDigits coefficient' places' := by
  have stops (fraction : List Char) :
      Text.Stops Char.isDigit (if fraction.isEmpty then [] else '.' :: fraction) := by
    split
    · exact Text.stops_nil
    · exact Text.stops_cons rfl
  rw [positional_eq, positional_eq] at same
  obtain ⟨whole, behind⟩ := Text.append_inj_of_stops isDigit_of_mem_wholeDigits
    isDigit_of_mem_wholeDigits (stops _) (stops _) same
  refine ⟨whole, ?_⟩
  split at behind <;> split at behind <;> simp_all

/-- Two decimals with the same text are equal. -/
theorem mul_eq_mul_of_positional_eq {coefficient places coefficient' places' : Nat}
    (same : positional coefficient places = positional coefficient' places') :
    coefficient * 10 ^ places' = coefficient' * 10 ^ places := by
  obtain ⟨whole, fraction⟩ := digits_eq_of_positional_eq same
  have quotients : coefficient / 10 ^ places = coefficient' / 10 ^ places' := by
    have values := congrArg (fun digits => Nat.ofDigitChars 10 digits 0) whole
    have value (number : Nat) : Nat.ofDigitChars 10 (Nat.toDigits 10 number) 0 = number :=
      Nat.ofDigitChars_toDigits (by decide) (by decide)
    simpa only [wholeDigits, value] using values
  have remainders : coefficient % 10 ^ places * 10 ^ places' =
      coefficient' % 10 ^ places' * 10 ^ places := by
    have value := fractionDigits_mul coefficient places
    have value' := fractionDigits_mul coefficient' places'
    rw [fraction] at value
    refine Nat.eq_of_mul_eq_mul_right
      (ten_pow_pos (fractionDigits coefficient' places').length) ?_
    rw [Nat.mul_right_comm, value, Nat.mul_right_comm (coefficient' % _), value',
      Nat.mul_right_comm]
  calc coefficient * 10 ^ places'
      = (10 ^ places * (coefficient / 10 ^ places) + coefficient % 10 ^ places) * 10 ^ places' := by
        rw [Nat.div_add_mod]
    _ = (10 ^ places' * (coefficient' / 10 ^ places') + coefficient' % 10 ^ places') *
          10 ^ places := by
        rw [Nat.add_mul, remainders, quotients, Nat.add_mul]
        ring
    _ = coefficient' * 10 ^ places := by
        rw [Nat.div_add_mod]

/-! ### A text tells which number it is -/

/-- The text of a finite magnitude is a decimal that rounds to its rank. -/
theorem exists_text_eq_positional {magnitude : Magnitude} (finite : magnitude ≠ infinity) :
    ∃ coefficient places, magnitude.text = positional coefficient places ∧
      roundsTo coefficient (10 ^ places) magnitude.rank = true := by
  have written : magnitude.text = positional
      (shortest magnitude.rank (exactDecimal magnitude.rank).1 (exactDecimal magnitude.rank).2
        ((Nat.toDigits 10 (exactDecimal magnitude.rank).1).length - 1))
      (exactDecimal magnitude.rank).2 := by
    rw [text, if_neg finite]
  exact ⟨_, _, written, roundsTo_shortest (roundsTo_exactDecimal _) _⟩

/-- Two finite magnitudes with the same text are equal. -/
theorem eq_of_text_eq {magnitude magnitude' : Magnitude} (finite : magnitude ≠ infinity)
    (finite' : magnitude' ≠ infinity) (same : magnitude.text = magnitude'.text) :
    magnitude = magnitude' := by
  obtain ⟨coefficient, places, written, rounds⟩ := exists_text_eq_positional finite
  obtain ⟨coefficient', places', written', rounds'⟩ := exists_text_eq_positional finite'
  rw [written, written'] at same
  have rounds := roundsTo_of_quotient (ten_pow_pos places) (ten_pow_pos places')
    (mul_eq_mul_of_positional_eq same) rounds
  have ranks := eq_of_roundsTo (ten_pow_pos places') rounds rounds'
  cases magnitude
  cases magnitude'
  congr

/-- The text of a finite magnitude begins with a digit and has digits and points only. -/
theorem exists_text_eq_cons {magnitude : Magnitude} (finite : magnitude ≠ infinity) :
    ∃ first rest, magnitude.text = first :: rest ∧ first.isDigit = true ∧
      ∀ c ∈ rest, c.isDigit = true ∨ c = '.' := by
  obtain ⟨coefficient, places, written, -⟩ := exists_text_eq_positional finite
  rw [written, positional_eq]
  cases digits : wholeDigits coefficient places with
  | nil => exact absurd digits Nat.toDigits_ne_nil
  | cons first more =>
    have isDigit : ∀ c ∈ first :: more, c.isDigit = true := digits ▸ isDigit_of_mem_wholeDigits
    obtain ⟨isFirst, others⟩ := List.forall_mem_cons.mp isDigit
    refine ⟨first, _, rfl, isFirst, fun c member => ?_⟩
    rcases List.mem_append.mp member with member | member
    · exact .inl (others c member)
    · split at member
      · cases member
      · rcases List.mem_cons.mp member with point | member
        · exact .inr point
        · exact .inl (isDigit_of_mem_fractionDigits c member)

end Magnitude

namespace Number

/-- A number that is neither infinite nor the outcome that is not a number. -/
def IsFinite : Number → Prop
  | nan => False
  | signed _ magnitude => magnitude ≠ .infinity

instance : (number : Number) → Decidable number.IsFinite
  | nan => isFalse id
  | signed _ magnitude => inferInstanceAs (Decidable (magnitude ≠ .infinity))

/-- Whether a character can stand in the text of a finite number. -/
def isNumeral (c : Char) : Bool :=
  c.isDigit || c = '.' || c = '-'

variable {number number' : Number}

theorem ne_nil_of_isFinite (finite : number.IsFinite) : number.text.toList ≠ [] := by
  cases number with
  | nan => exact finite.elim
  | signed negative magnitude =>
    obtain ⟨first, rest, written, -⟩ := Magnitude.exists_text_eq_cons finite
    rw [text, String.toList_ofList, written]
    cases negative <;> exact List.cons_ne_nil _ _

/-- The text of a finite number has characters of numerals only. -/
theorem isNumeral_of_isFinite (finite : number.IsFinite) :
    ∀ c ∈ number.text.toList, isNumeral c = true := by
  cases number with
  | nan => exact finite.elim
  | signed negative magnitude =>
    obtain ⟨first, rest, written, digit, others⟩ := Magnitude.exists_text_eq_cons finite
    have inside : ∀ c ∈ magnitude.text, isNumeral c = true := by
      rw [written]
      refine List.forall_mem_cons.mpr ⟨by rw [isNumeral, digit]; rfl, fun c member => ?_⟩
      rcases others c member with digit | rfl
      · rw [isNumeral, digit]
        rfl
      · rfl
    rw [text, String.toList_ofList]
    cases negative with
    | false => exact inside
    | true => exact List.forall_mem_cons.mpr ⟨rfl, inside⟩

/-- Two finite numbers with the same text are equal. -/
theorem eq_of_text_eq (finite : number.IsFinite) (finite' : number'.IsFinite)
    (same : number.text = number'.text) : number = number' := by
  match number, number' with
  | nan, _ => exact finite.elim
  | _, nan => exact finite'.elim
  | signed negative magnitude, signed negative' magnitude' =>
    have same := String.ofList_injective same
    obtain ⟨first, rest, written, digit, -⟩ := Magnitude.exists_text_eq_cons finite
    obtain ⟨first', rest', written', digit', -⟩ := Magnitude.exists_text_eq_cons finite'
    -- A sign is no digit, so both numbers have one or none has.
    cases negative <;> cases negative'
    · rw [Magnitude.eq_of_text_eq finite finite' same]
    · rw [if_neg (by decide), if_pos rfl, written] at same
      rw [(List.cons.inj same).1] at digit
      cases digit
    · rw [if_pos rfl, if_neg (by decide), written'] at same
      rw [← (List.cons.inj same).1] at digit'
      cases digit'
    · rw [Magnitude.eq_of_text_eq finite finite' (List.cons.inj same).2]

end Number

end Parlance
