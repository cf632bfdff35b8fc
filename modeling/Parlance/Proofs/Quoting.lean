/-
This file proves that a quoted text can be told from what stands behind it. Each character between
the quotes has a writing of its own, none of these begins another one, and none begins with a quote,
so the quoted text ends at its own quote and tells which text was quoted.
-/

import Parlance.Text.Quoted
import Parlance.Proofs.Spelling

namespace Parlance.Text

/-! ### Hexadecimal digits -/

/-- A hexadecimal digit tells its value. -/
theorem digitChar_inj {digit digit' : Nat} (small : digit < 16) (small' : digit' < 16)
    (same : digit.digitChar = digit'.digitChar) : digit = digit' := by
  have all : ∀ digit digit' : Fin 16, digit.val.digitChar = digit'.val.digitChar →
      digit.val = digit'.val := by
    decide
  exact all ⟨digit, small⟩ ⟨digit', small'⟩ same

/-- Hexadecimal digits tell which number they write. -/
theorem toDigits_inj {number number' : Nat}
    (same : Nat.toDigits 16 number = Nat.toDigits 16 number') : number = number' := by
  induction number using Nat.strongRecOn generalizing number' with
  | ind number inductionHypothesis =>
    rw [Nat.toDigits_eq_if (by decide), Nat.toDigits_eq_if (n := number') (by decide)] at same
    split at same <;> split at same
    · rename_i small small'
      exact digitChar_inj small small' (List.singleton_inj.mp same)
    · exact absurd (List.append_eq_singleton_iff.mp same.symm) (by simp [Nat.toDigits_ne_nil])
    · exact absurd (List.append_eq_singleton_iff.mp same) (by simp [Nat.toDigits_ne_nil])
    · rename_i large large'
      obtain ⟨front, last⟩ := List.append_inj' same rfl
      have quotients := inductionHypothesis (number / 16) (by omega) front
      have remainders := digitChar_inj (Nat.mod_lt number (by decide))
        (Nat.mod_lt number' (by decide)) (List.singleton_inj.mp last)
      omega

/-- A character that is no digit of any number is none of the digits of one. -/
theorem ne_of_mem_toDigits {c other : Char} {number : Nat}
    (noDigit : ∀ digit : Nat, digit.digitChar ≠ other) (member : c ∈ Nat.toDigits 16 number) :
    c ≠ other := by
  induction number using Nat.strongRecOn with
  | ind number inductionHypothesis =>
    rw [Nat.toDigits_eq_if (by decide)] at member
    split at member
    · rw [List.mem_singleton.mp member]
      exact noDigit _
    · rename_i large
      rcases List.mem_append.mp member with front | last
      · exact inductionHypothesis (number / 16) (by omega) front
      · rw [List.mem_singleton.mp last]
        exact noDigit _

/-! ### Characters between quotes -/

variable {c c' : Char} {rest rest' : List Char}

theorem codeEscape_append_inj (same : codeEscape c ++ rest = codeEscape c' ++ rest') :
    c = c' ∧ rest = rest' := by
  have inside (c : Char) : ∀ digit ∈ Nat.toDigits 16 c.toNat, decide (digit ≠ '\x7d') = true :=
    fun _ member => decide_eq_true (ne_of_mem_toDigits (fun _ => Nat.digitChar_ne _ rfl) member)
  have stops (rest : List Char) : Stops (fun digit => decide (digit ≠ '\x7d')) ('\x7d' :: rest) :=
    stops_cons rfl
  simp only [codeEscape, List.cons_append, List.append_assoc, List.cons.injEq, true_and,
    List.nil_append] at same
  obtain ⟨digits, behind⟩ :=
    append_inj_of_stops (inside c) (inside c') (stops rest) (stops rest') same
  exact ⟨Char.toNat_inj.mp (toDigits_inj digits), (List.cons.inj behind).2⟩

/-- The three ways of writing a character between quotes. -/
theorem quotedChar_cases (c : Char) :
    (∃ letter, letter ≠ 'u' ∧ ofEscapeLetter? letter = some c ∧ quotedChar c = ['\\', letter]) ∨
      quotedChar c = codeEscape c ∨ c ≠ '\\' ∧ c ≠ '"' ∧ quotedChar c = [c] := by
  unfold quotedChar
  split
  · rename_i letter found
    have back := (ofEscapeLetter?_eq_some_iff c letter).mpr found
    refine .inl ⟨letter, ?_, back, rfl⟩
    rintro rfl
    cases back
  · rename_i none
    split
    · exact .inr (.inl rfl)
    · refine .inr (.inr ⟨?_, ?_, rfl⟩)
      · rintro rfl
        cases none
      · rintro rfl
        cases none

/-- A character between quotes does not begin with a quote. -/
theorem stops_quotedChar (c : Char) (rest : List Char) :
    Stops (· = '"') (quotedChar c ++ rest) := by
  rcases quotedChar_cases c with ⟨letter, -, -, written⟩ | written | ⟨-, notQuote, written⟩
  · rw [written]
    exact stops_cons rfl
  · rw [written]
    exact stops_cons rfl
  · rw [written]
    exact stops_cons (decide_eq_false notQuote)

/-- A character between quotes can be told from what stands behind it. -/
theorem quotedChar_append_inj (same : quotedChar c ++ rest = quotedChar c' ++ rest') :
    c = c' ∧ rest = rest' := by
  rcases quotedChar_cases c with
    ⟨letter, notCode, stands, written⟩ | written | ⟨plain, -, written⟩ <;>
  rcases quotedChar_cases c' with
    ⟨letter', notCode', stands', written'⟩ | written' | ⟨plain', -, written'⟩ <;>
  rw [written, written'] at same
  · simp only [List.cons_append, List.nil_append, List.cons.injEq, true_and] at same
    obtain ⟨rfl, rfl⟩ := same
    exact ⟨Option.some.inj (stands.symm.trans stands'), rfl⟩
  · exact absurd (List.cons.inj (List.cons.inj same).2).1 notCode
  · exact absurd (List.cons.inj same).1.symm plain'
  · exact absurd (List.cons.inj (List.cons.inj same).2).1.symm notCode'
  · exact codeEscape_append_inj same
  · exact absurd (List.cons.inj same).1.symm plain'
  · exact absurd (List.cons.inj same).1 plain
  · exact absurd (List.cons.inj same).1 plain
  · exact List.cons.inj same

/-! ### Quoted texts -/

theorem flatMap_quotedChar_append_inj {text text' : List Char}
    (same : text.flatMap quotedChar ++ '"' :: rest = text'.flatMap quotedChar ++ '"' :: rest') :
    text = text' ∧ rest = rest' := by
  induction text generalizing text' with
  | nil =>
    cases text' with
    | nil => exact ⟨rfl, (List.cons.inj same).2⟩
    | cons c' text' =>
      rw [List.flatMap_cons, List.append_assoc] at same
      have stops := stops_quotedChar c' (text'.flatMap quotedChar ++ '"' :: rest')
      rw [← same] at stops
      cases stops '"' rfl
  | cons c text inductionHypothesis =>
    rw [List.flatMap_cons, List.append_assoc] at same
    cases text' with
    | nil =>
      have stops := stops_quotedChar c (text.flatMap quotedChar ++ '"' :: rest)
      rw [same] at stops
      cases stops '"' rfl
    | cons c' text' =>
      rw [List.flatMap_cons, List.append_assoc] at same
      obtain ⟨rfl, behind⟩ := quotedChar_append_inj same
      obtain ⟨rfl, rfl⟩ := inductionHypothesis behind
      exact ⟨rfl, rfl⟩

/-- A quoted text can be told from what stands behind it. -/
theorem quoted_append_inj {text text' : List Char}
    (same : quoted text ++ rest = quoted text' ++ rest') : text = text' ∧ rest = rest' := by
  rw [quoted, quoted, List.cons_append, List.cons_append, List.cons_append, List.cons_append,
    List.append_assoc, List.append_assoc] at same
  exact flatMap_quotedChar_append_inj (List.cons.inj same).2

end Parlance.Text
