/-
This file says what the place of an offset is. A text is cut at each of its characters into what
stands above the line of the character, the line in front of it and behind it, and what stands
below; the lines of the text are then the lines above, that line and the lines below. The place of
the offset of a character is therefore on that line, and its number is counted by the newlines
above, which are also the newlines in front of the character. An offset at the end of a text or
beyond it has its place behind the last character.
-/

import Parlance.Excerpt

namespace Parlance

namespace Text

/-! ### Lines of a text -/

/-- A text is empty or ends in a newline, so that a line begins behind it. -/
def EndsLine (text : List Char) : Prop :=
  text = [] ∨ ∃ front, text = front ++ ['\n']

/-- A text is one line in front of the text `below`: it has no newline but at its end, and has one
there unless nothing follows. -/
structure IsLine (line below : List Char) : Prop where
  notEmpty : line ≠ []
  inner : '\n' ∉ line.dropLast
  ends : below = [] ∨ ∃ front, line = front ++ ['\n']

theorem EndsLine.tail {c : Char} {text : List Char} (ends : EndsLine (c :: text)) :
    EndsLine text := by
  rcases ends with empty | ⟨front, split⟩
  · cases empty
  · cases front with
    | nil => exact .inl (List.cons.inj split).2
    | cons c' front => exact .inr ⟨front, (List.cons.inj split).2⟩

theorem EndsLine.ne_nil {c : Char} {text : List Char} (ends : EndsLine (c :: text))
    (other : c ≠ '\n') : text ≠ [] := by
  rintro rfl
  rcases ends with empty | ⟨front, split⟩
  · cases empty
  · cases front with
    | nil => exact other (List.cons.inj split).1
    | cons c' front => exact absurd (List.cons.inj split).2.symm (by simp)

theorem lines_ne_nil {text : List Char} (notEmpty : text ≠ []) : lines text ≠ [] := by
  intro none
  have flat := flatten_lines text
  rw [none] at flat
  exact notEmpty flat.symm

/-- Where a line ends, the lines of a text can be taken apart. -/
theorem lines_append {above : List Char} (ends : EndsLine above) (rest : List Char) :
    lines (above ++ rest) = lines above ++ lines rest := by
  induction above with
  | nil => rfl
  | cons c above inductionHypothesis =>
    have inner := inductionHypothesis ends.tail
    rw [List.cons_append, lines, lines, inner]
    by_cases newline : c = '\n'
    · rw [if_pos newline, if_pos newline, List.cons_append]
    · rw [if_neg newline, if_neg newline]
      obtain ⟨line, others, split⟩ :=
        List.exists_cons_of_ne_nil (lines_ne_nil (ends.ne_nil newline))
      rw [split]
      rfl

/-- A text that ends in a newline has as many lines as newlines. -/
theorem length_lines {above : List Char} (ends : EndsLine above) :
    (lines above).length = lineEnds above := by
  induction above with
  | nil => rfl
  | cons c above inductionHypothesis =>
    have inner := inductionHypothesis ends.tail
    rw [lines, lineEnds, List.count_cons]
    by_cases newline : c = '\n'
    · simp [newline, inner, lineEnds]
    · obtain ⟨line, others, split⟩ :=
        List.exists_cons_of_ne_nil (lines_ne_nil (ends.ne_nil newline))
      rw [split] at inner
      simpa [newline, split, lineEnds] using inner

theorem lines_of_isLine {line below : List Char} (isLine : IsLine line below) :
    lines (line ++ below) = line :: lines below := by
  obtain ⟨notEmpty, inner, ends⟩ := isLine
  induction line with
  | nil => exact absurd rfl notEmpty
  | cons c line inductionHypothesis =>
    rw [List.cons_append, lines]
    cases line with
    | nil =>
      by_cases newline : c = '\n'
      · rw [if_pos newline, List.nil_append]
      · rw [if_neg newline, List.nil_append]
        -- Without a newline it is the last line.
        rcases ends with rfl | ⟨front, split⟩
        · rfl
        · have ends : EndsLine [c] := .inr ⟨front, split⟩
          exact absurd rfl (ends.ne_nil newline)
    | cons d line =>
      rw [List.dropLast_cons_cons, List.mem_cons, not_or] at inner
      have ends' : below = [] ∨ ∃ front, d :: line = front ++ ['\n'] := by
        rcases ends with none | ⟨front, split⟩
        · exact .inl none
        · have ends : EndsLine (c :: d :: line) := .inr ⟨front, split⟩
          exact .inr (ends.tail.resolve_left (List.cons_ne_nil d line))
      rw [if_neg (Ne.symm inner.1), inductionHypothesis (List.cons_ne_nil d line) inner.2 ends']

/-! ### The line of a character -/

/-- Where the character `c` between the texts `front` and `back` has its line: behind the lines
`above`, with `start` in front of it and `stop` behind it on the line, and with `below` behind the
line. -/
structure OnLine (front : List Char) (c : Char) (back above start stop below : List Char) :
    Prop where
  front_eq : front = above ++ start
  back_eq : back = stop ++ below
  endsLine : EndsLine above
  noNewline : '\n' ∉ start
  isLine : IsLine (start ++ c :: stop) below

theorem exists_last_line (front : List Char) :
    ∃ above start, front = above ++ start ∧ EndsLine above ∧ '\n' ∉ start := by
  induction front with
  | nil => exact ⟨[], [], rfl, .inl rfl, List.not_mem_nil⟩
  | cons c front inductionHypothesis =>
    obtain ⟨above, start, rfl, ends, noNewline⟩ := inductionHypothesis
    rcases ends with rfl | ⟨front, rfl⟩
    · by_cases newline : c = '\n'
      · exact ⟨[c], start, rfl, .inr ⟨[], by rw [newline]; rfl⟩, noNewline⟩
      · exact ⟨[], c :: start, rfl, .inl rfl, List.not_mem_cons_of_ne_of_not_mem
          (Ne.symm newline) noNewline⟩
    · exact ⟨c :: (front ++ ['\n']), start, rfl, .inr ⟨c :: front, rfl⟩, noNewline⟩

theorem exists_first_line (c : Char) (back : List Char) :
    ∃ stop below, back = stop ++ below ∧ IsLine (c :: stop) below := by
  induction back generalizing c with
  | nil => exact ⟨[], [], rfl, List.cons_ne_nil c [], List.not_mem_nil, .inl rfl⟩
  | cons d back inductionHypothesis =>
    by_cases newline : c = '\n'
    · exact ⟨[], d :: back, rfl, List.cons_ne_nil c [], List.not_mem_nil,
        .inr ⟨[], by rw [newline]; rfl⟩⟩
    · obtain ⟨stop, below, rfl, notEmpty, inner, ends⟩ := inductionHypothesis d
      refine ⟨d :: stop, below, rfl, List.cons_ne_nil c _, ?_, ?_⟩
      · rw [List.dropLast_cons_cons]
        exact List.not_mem_cons_of_ne_of_not_mem (Ne.symm newline) inner
      · rcases ends with none | ⟨front, split⟩
        · exact .inl none
        · exact .inr ⟨c :: front, by rw [split]; rfl⟩

/-- Every character of a text has its line. -/
theorem exists_onLine (front : List Char) (c : Char) (back : List Char) :
    ∃ above start stop below, OnLine front c back above start stop below := by
  obtain ⟨above, start, split, ends, noNewline⟩ := exists_last_line front
  obtain ⟨stop, below, split', notEmpty, inner, ends'⟩ := exists_first_line c back
  refine ⟨above, start, stop, below, split, split', ends, noNewline, by simp, ?_, ?_⟩
  · rw [List.dropLast_append_of_ne_nil (List.cons_ne_nil c stop), List.mem_append, not_or]
    exact ⟨noNewline, inner⟩
  · rcases ends' with none | ⟨front, split⟩
    · exact .inl none
    · exact .inr ⟨start ++ front, by rw [split, List.append_assoc]⟩

section OnLine

variable {front back above start stop below : List Char} {c : Char}

/-- The newlines in front of a character are those above its line. -/
theorem OnLine.lineEnds_front (onLine : OnLine front c back above start stop below) :
    lineEnds front = lineEnds above := by
  rw [onLine.front_eq, lineEnds, List.count_append, List.count_eq_zero.mpr onLine.noNewline]
  rfl

theorem OnLine.lines_eq (onLine : OnLine front c back above start stop below) :
    lines (front ++ c :: back) = lines above ++ (start ++ c :: stop) :: lines below := by
  rw [← lines_of_isLine onLine.isLine, ← lines_append onLine.endsLine, onLine.front_eq,
    onLine.back_eq]
  simp

end OnLine

end Text

open Text

/-! ### Places of offsets -/

/-- Lines in front of the place of an offset are counted and passed over. -/
theorem spotIn_append (number offset : Nat) (passed : List (List Char)) {rest : List (List Char)}
    (some : rest ≠ []) :
    spotIn number (width passed.flatten + offset) (passed ++ rest) =
      spotIn (number + passed.length) offset rest := by
  induction passed generalizing number with
  | nil => rw [List.flatten_nil, width_nil, Nat.zero_add]; rfl
  | cons line passed inductionHypothesis =>
    have beyond : ¬ width (line :: passed).flatten + offset < width line := by
      rw [List.flatten_cons, width_append]
      omega
    have left : width (line :: passed).flatten + offset - width line =
        width passed.flatten + offset := by
      rw [List.flatten_cons, width_append]
      omega
    have more : (passed ++ rest).isEmpty = false := by
      rw [List.isEmpty_eq_false_iff]
      exact List.append_ne_nil_of_right_ne_nil passed some
    rw [List.cons_append, spotIn, if_neg beyond, more, left, List.length_cons, ← Nat.add_assoc,
      Nat.add_right_comm]
    exact inductionHypothesis (number + 1)

section Spots

variable {front back above start stop below : List Char} {c : Char}

/-- The place of the offset of a character is on the line of the character. -/
theorem spotIn_of_onLine (onLine : OnLine front c back above start stop below) (number : Nat) :
    spotIn number (width front) (lines (front ++ c :: back)) =
      .ok (some ⟨number + lineEnds front, start ++ c :: stop, start.length⟩) := by
  have inside : width start < width (start ++ c :: stop) := by
    have positive := Char.utf8Size_pos c
    rw [width_append, width_cons]
    omega
  have passed : width front = width (lines above).flatten + width start := by
    rw [flatten_lines, onLine.front_eq, width_append]
  rw [onLine.lines_eq, passed, spotIn_append number _ _ (List.cons_ne_nil _ _), spotIn,
    if_pos inside, cut?_width, length_lines onLine.endsLine, onLine.lineEnds_front]

/-- The place of an offset at the end of a text or beyond it is behind the last character. -/
theorem spotIn_of_ended (onLine : OnLine front c [] above start stop below) (number : Nat)
    {offset : Nat} (beyond : width (front ++ [c]) ≤ offset) :
    spotIn number offset (lines (front ++ [c])) =
      .ok (some ⟨number + lineEnds front, start ++ [c], (start ++ [c]).length⟩) := by
  obtain ⟨rfl, rfl⟩ := List.append_eq_nil_iff.mp onLine.back_eq.symm
  have passed : width (front ++ [c]) = width (lines above).flatten + width (start ++ [c]) := by
    rw [flatten_lines, onLine.front_eq, List.append_assoc, width_append]
  obtain ⟨more, rfl⟩ := Nat.exists_eq_add_of_le (passed ▸ beyond)
  have outside : ¬ width (start ++ [c]) + more < width (start ++ [c]) := by omega
  rw [onLine.lines_eq, Nat.add_assoc, spotIn_append number _ _ (List.cons_ne_nil _ _), spotIn,
    if_neg outside, length_lines onLine.endsLine, onLine.lineEnds_front]
  rfl

end Spots

end Parlance
