/-
This file says what a string becomes that is printed and read again. Printing writes six characters
as a pair of a backslash and a letter, and reading knows the same six pairs. But printing also
writes unseen characters by their codes, and reading has no pair for that: the backslash and the
letter are kept, and so is the code behind them. The printed text is one string all the same, as no
writing of a character contains a quote or ends inside a pair; and it denotes the text that was
printed, in which the writing of each unseen character stands for the character.
-/

import Parlance.Proofs.Escapes
import Parlance.Proofs.Quoting

namespace Parlance

namespace Text

/-- What a character is read as when it has been written between quotes. -/
def echo (c : Char) : List Char :=
  if quotedChar c = codeEscape c then codeEscape c else [c]

section Decodes

variable {inner text : List Char}

theorem Decodes.append_of_plain {run : List Char} (plain : ∀ c ∈ run, c ≠ '"' ∧ c ≠ '\\')
    (decodes : Decodes inner text) : Decodes (run ++ inner) (run ++ text) := by
  induction run with
  | nil => exact decodes
  | cons c run inductionHypothesis =>
    obtain ⟨⟨notQuote, notBackslash⟩, others⟩ := List.forall_mem_cons.mp plain
    exact .plain notQuote notBackslash (inductionHypothesis others)

/-- The code of a character is kept as it is written. -/
theorem Decodes.codeEscape_append (c : Char) (decodes : Decodes inner text) :
    Decodes (codeEscape c ++ inner) (codeEscape c ++ text) := by
  have unknown : ∀ c, ('u', c) ∉ escapes := fun c isEscape => by
    cases mem_escapes_iff.mp isEscape
  have digits : ∀ digit ∈ Nat.toDigits 16 c.toNat, digit ≠ '"' ∧ digit ≠ '\\' :=
    fun _ member => ⟨ne_of_mem_toDigits (fun _ => Nat.digitChar_ne _ rfl) member,
      ne_of_mem_toDigits (fun _ => Nat.digitChar_ne _ rfl) member⟩
  have plain : ∀ d ∈ '\x7b' :: Nat.toDigits 16 c.toNat ++ ['\x7d'], d ≠ '"' ∧ d ≠ '\\' :=
    List.forall_mem_append.mpr ⟨List.forall_mem_cons.mpr ⟨by decide, digits⟩,
      List.forall_mem_singleton.mpr (by decide)⟩
  exact .kept unknown (by decide) (decodes.append_of_plain plain)

theorem Decodes.quotedChar_append (c : Char) (decodes : Decodes inner text) :
    Decodes (quotedChar c ++ inner) (echo c ++ text) := by
  rcases quotedChar_cases c with
    ⟨letter, notCode, stands, written⟩ | written | ⟨notBackslash, notQuote, written⟩
  · have notCoded : quotedChar c ≠ codeEscape c := fun coded =>
      notCode (List.cons.inj (List.cons.inj (written.symm.trans coded)).2).1
    rw [echo, if_neg notCoded, written]
    exact .escape (mem_escapes_iff.mpr stands) decodes
  · rw [echo, if_pos written, written]
    exact decodes.codeEscape_append c
  · have notCoded : quotedChar c ≠ codeEscape c := fun coded =>
      notBackslash (List.cons.inj (written.symm.trans coded)).1
    rw [echo, if_neg notCoded, written]
    exact .plain notQuote notBackslash decodes

end Decodes

/-- What is written between quotes denotes the text with the unseen characters replaced. -/
theorem decodes_flatMap_quotedChar (text : List Char) :
    Decodes (text.flatMap quotedChar) (text.flatMap echo) := by
  induction text with
  | nil => exact .nil
  | cons c text inductionHypothesis =>
    rw [List.flatMap_cons, List.flatMap_cons]
    exact inductionHypothesis.quotedChar_append c

/-- A text comes back as it was exactly if none of its characters was written by its code. -/
theorem flatMap_echo_eq_iff (text : List Char) :
    text.flatMap echo = text ↔ ∀ c ∈ text, quotedChar c ≠ codeEscape c := by
  induction text with
  | nil => exact iff_of_true rfl fun _ member => absurd member List.not_mem_nil
  | cons c text inductionHypothesis =>
    rw [List.flatMap_cons, List.forall_mem_cons, ← inductionHypothesis]
    by_cases coded : quotedChar c = codeEscape c
    · refine iff_of_false (fun same => ?_) fun both => both.1 coded
      -- The code begins with a backslash, which is never written by its own code.
      rw [echo, if_pos coded] at same
      obtain rfl : '\\' = c := (List.cons.inj same).1
      exact absurd coded (by decide)
    · rw [echo, if_neg coded, List.singleton_append, List.cons.injEq]
      exact and_congr_left' ⟨fun _ => coded, fun _ => rfl⟩

/-- What stands between printed quotes is on one line. -/
theorem lineEnds_flatMap_quotedChar (text : List Char) :
    lineEnds (text.flatMap quotedChar) = 0 := by
  refine List.count_eq_zero.mpr fun member => ?_
  obtain ⟨c, -, member⟩ := List.mem_flatMap.mp member
  rcases quotedChar_cases c with ⟨letter, -, stands, written⟩ | written | ⟨-, -, written⟩
  · rw [written] at member
    have isLetter : '\n' = letter := by simpa using member
    rw [← isLetter] at stands
    cases stands
  · rw [written] at member
    have isDigit : '\n' ∈ Nat.toDigits 16 c.toNat := by simpa [codeEscape] using member
    exact ne_of_mem_toDigits (fun _ => Nat.digitChar_ne '\n' rfl) isDigit rfl
  · rw [written, List.mem_singleton] at member
    rw [← member] at written
    exact absurd written (by decide)

end Text

open Text

/-- A string that is printed is read again as one string on one line, and as the same text exactly
if no character of it was written by its code. In any case it is read as the text in which each such
character is replaced by the way its code is written. -/
theorem tokenize_text_string (text file : String) :
    let printed := (Literal.string text).text
    let again := String.ofList (text.toList.flatMap echo)
    let stop : Position := ⟨(width printed.toList).toUInt32, file⟩
    tokenize printed file = .ok
        [⟨.string, printed, some (.string again), 1, ⟨⟨0, file⟩, stop⟩⟩, Token.eof 1 ⟨stop, stop⟩] ∧
      (again = text ↔ ∀ c ∈ text.toList, quotedChar c ≠ codeEscape c) := by
  intro printed again stop
  have isPrinted : printed = String.ofList ('"' :: (text.toList.flatMap quotedChar ++ ['"'])) := rfl
  have decodes : Decodes (text.toList.flatMap quotedChar) again.toList := by
    rw [String.toList_ofList]
    exact decodes_flatMap_quotedChar text.toList
  have wide : width printed.toList = width (text.toList.flatMap quotedChar) + 2 := by
    rw [isPrinted, String.toList_ofList, width_quotes]
  refine ⟨?_, ?_⟩
  · have done := decodes.tokenize_eq file
    rw [lineEnds_flatMap_quotedChar, ← wide, ← isPrinted] at done
    exact done
  · rw [← flatMap_echo_eq_iff, ← String.toList_inj, String.toList_ofList]

/-- A letter with an accent that is a character of its own, and one with an accent behind it. -/
example : String.ofList ("é e\u0301".toList.flatMap echo) = "é e\\u\x7b301\x7d" := by
  decide +kernel

end Parlance
