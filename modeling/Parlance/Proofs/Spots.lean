/-
This file says in full what the place of an offset is. The lines of a source are walked with a
running offset, so the line that is found is described by what stands above it and below it: the
lines above end in a newline and are counted, the line has no newline but its own, and the offset is
on it or behind it. Three cases are told apart by the source and the offset alone. An empty source
has no places; an offset inside a source has one exactly if it does not fall inside a character; and
an offset at the end or beyond it has its place behind the last line.
-/

import Parlance.Proofs.Lines

namespace Parlance

open Text

/-- An offset into a text does not fall inside a character. -/
def Text.OnBoundary (offset : Nat) (text : List Char) : Prop :=
  ∃ front back, text = front ++ back ∧ width front = offset

namespace Text.OnBoundary

variable {offset : Nat} {line rest : List Char}

theorem append_right (onBoundary : OnBoundary offset line) (rest : List Char) :
    OnBoundary offset (line ++ rest) := by
  obtain ⟨front, back, rfl, wide⟩ := onBoundary
  exact ⟨front, back ++ rest, List.append_assoc _ _ _, wide⟩

theorem append_left (onBoundary : OnBoundary offset rest) (line : List Char) :
    OnBoundary (width line + offset) (line ++ rest) := by
  obtain ⟨front, back, rfl, rfl⟩ := onBoundary
  exact ⟨line ++ front, back, (List.append_assoc _ _ _).symm, width_append _ _⟩

end Text.OnBoundary

/-- An offset that falls inside a character of some line is refused there. -/
theorem spotIn_of_not_onBoundary (number : Nat) {offset : Nat} {lines : List (List Char)}
    (inside : offset < width lines.flatten) (between : ¬ OnBoundary offset lines.flatten) :
    spotIn number offset lines = .error .insideCharacter := by
  induction lines generalizing number offset with
  | nil => exact absurd inside (Nat.not_lt_zero offset)
  | cons line rest inductionHypothesis =>
    rw [List.flatten_cons] at inside between
    rw [width_append] at inside
    rw [spotIn]
    by_cases here : offset < width line
    · rw [if_pos here]
      cases found : cut? offset line with
      | none => rfl
      | some parts =>
        obtain ⟨same, wide⟩ := append_of_cut?_eq_some found
        have onLine : OnBoundary offset line := ⟨parts.1, parts.2, same.symm, wide⟩
        exact absurd (onLine.append_right rest.flatten) between
    · obtain ⟨left, rfl⟩ := Nat.exists_eq_add_of_le (Nat.le_of_not_lt here)
      have inside' : left < width rest.flatten := by omega
      have some : rest.isEmpty = false := by
        cases rest with
        | nil => exact absurd inside' (Nat.not_lt_zero left)
        | cons _ _ => rfl
      rw [if_neg here, some, Nat.add_sub_cancel_left]
      exact inductionHypothesis (number + 1) inside' fun onBoundary =>
        between (onBoundary.append_left line)

section Spots

variable {source : List Char} {offset : UInt32}

theorem spotAt_of_not_onBoundary (inside : offset.toNat < width source)
    (between : ¬ OnBoundary offset.toNat source) :
    spotAt source offset = .error .insideCharacter := by
  rw [← flatten_lines source] at inside between
  exact spotIn_of_not_onBoundary 1 inside between

/-- An offset in front of a character has its place on the line of the character. -/
theorem exists_spotAt_of_onBoundary (inside : offset.toNat < width source)
    (onBoundary : OnBoundary offset.toNat source) :
    ∃ above start stop below, source = above ++ (start ++ stop) ++ below ∧ EndsLine above ∧
      IsLine (start ++ stop) below ∧ width above + width start = offset.toNat ∧
      offset.toNat < width above + width (start ++ stop) ∧
      spotAt source offset = .ok (some ⟨1 + lineEnds above, start ++ stop, start.length⟩) := by
  obtain ⟨front, back, rfl, wide⟩ := onBoundary
  cases back with
  | nil =>
    rw [List.append_nil, wide] at inside
    exact absurd inside (Nat.lt_irrefl _)
  | cons c back =>
    obtain ⟨above, start, stop, below, onLine⟩ := exists_onLine front c back
    have before : width above + width start = offset.toNat := by
      rw [← width_append, ← onLine.front_eq, wide]
    refine ⟨above, start, c :: stop, below, ?_, onLine.endsLine, onLine.isLine, before, ?_, ?_⟩
    · rw [onLine.front_eq, onLine.back_eq]
      simp
    · have positive := Char.utf8Size_pos c
      rw [width_append, width_cons]
      omega
    · rw [spotAt, ← wide, spotIn_of_onLine onLine 1, onLine.lineEnds_front]

/-- An offset at the end of a source or beyond it has its place behind the last line. -/
theorem exists_spotAt_of_beyond (notEmpty : source ≠ []) (beyond : width source ≤ offset.toNat) :
    ∃ above line, source = above ++ line ∧ EndsLine above ∧ IsLine line [] ∧
      spotAt source offset = .ok (some ⟨1 + lineEnds above, line, line.length⟩) := by
  obtain ⟨front, c, rfl⟩ : ∃ front c, source = front ++ [c] :=
    ⟨_, _, (List.dropLast_concat_getLast notEmpty).symm⟩
  obtain ⟨above, start, stop, below, onLine⟩ := exists_onLine front c []
  obtain ⟨rfl, rfl⟩ := List.append_eq_nil_iff.mp onLine.back_eq.symm
  refine ⟨above, start ++ [c], ?_, onLine.endsLine, onLine.isLine, ?_⟩
  · rw [onLine.front_eq, List.append_assoc]
  · rw [spotAt, spotIn_of_ended onLine 1 beyond, onLine.lineEnds_front]

end Spots

/-- What the place of an offset is. There is none exactly in an empty source. Inside a source the
offset is refused exactly if it falls inside a character; otherwise its place is on the line that
holds it, with the number of lines above and the characters in front of it on the line. At the end
and beyond it is behind the last line. -/
theorem spotAt_described (source : List Char) (offset : UInt32) :
    (spotAt source offset = .ok none ↔ source = []) ∧
    (offset.toNat < width source →
      ((∃ error, spotAt source offset = .error error) ↔ ¬ OnBoundary offset.toNat source) ∧
      (OnBoundary offset.toNat source → ∃ above start stop below,
        source = above ++ (start ++ stop) ++ below ∧ EndsLine above ∧
        IsLine (start ++ stop) below ∧ width above + width start = offset.toNat ∧
        offset.toNat < width above + width (start ++ stop) ∧
        spotAt source offset = .ok (some ⟨1 + lineEnds above, start ++ stop, start.length⟩))) ∧
    (source ≠ [] → width source ≤ offset.toNat → ∃ above line,
      source = above ++ line ∧ EndsLine above ∧ IsLine line [] ∧
      spotAt source offset = .ok (some ⟨1 + lineEnds above, line, line.length⟩)) := by
  refine ⟨⟨fun none => ?_, fun empty => by rw [empty]; rfl⟩, fun inside => ⟨⟨?_, ?_⟩, ?_⟩, ?_⟩
  · refine Decidable.byContradiction fun notEmpty => ?_
    by_cases inside : offset.toNat < width source
    · by_cases onBoundary : OnBoundary offset.toNat source
      · obtain ⟨_, _, _, _, -, -, -, -, -, found⟩ := exists_spotAt_of_onBoundary inside onBoundary
        cases none.symm.trans found
      · cases none.symm.trans (spotAt_of_not_onBoundary inside onBoundary)
    · obtain ⟨_, _, -, -, -, found⟩ := exists_spotAt_of_beyond notEmpty (Nat.le_of_not_lt inside)
      cases none.symm.trans found
  · rintro ⟨error, refused⟩ onBoundary
    obtain ⟨_, _, _, _, -, -, -, -, -, found⟩ := exists_spotAt_of_onBoundary inside onBoundary
    cases refused.symm.trans found
  · exact fun between => ⟨_, spotAt_of_not_onBoundary inside between⟩
  · exact exists_spotAt_of_onBoundary inside
  · exact exists_spotAt_of_beyond

/-- A character of two bytes and a line of one character behind it: the second byte has no place,
and an offset far behind the end has its place on the second line. -/
theorem spotAt_described_twoBytes :
    spotAt "é\nz".toList 1 = .error .insideCharacter ∧ ¬ OnBoundary 1 "é\nz".toList ∧
    ∃ above line, "é\nz".toList = above ++ line ∧ EndsLine above ∧ IsLine line [] ∧
      spotAt "é\nz".toList 99 = .ok (some ⟨1 + lineEnds above, line, line.length⟩) ∧
      spotAt "é\nz".toList 99 = .ok (some ⟨2, ['z'], 1⟩) := by
  have refused : spotAt "é\nz".toList 1 = .error .insideCharacter := by rfl
  have between := ((spotAt_described "é\nz".toList 1).2.1 (by decide)).1.mp ⟨_, refused⟩
  obtain ⟨above, line, text, endsLine, isLine, found⟩ :=
    (spotAt_described "é\nz".toList 99).2.2 (by decide) (by decide)
  exact ⟨refused, between, above, line, text, endsLine, isLine, found, by rfl⟩

end Parlance
