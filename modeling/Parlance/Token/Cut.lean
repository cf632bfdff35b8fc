/-
This file reads one piece from the front of a text. A piece is a run of blanks, a remark, a word,
a number, a string or a mark; its first character settles which, save that a remark needs two
slashes. Words, numbers and runs of blanks reach as far as they can, a remark reaches to the end
of its line, and a string to the first quote that no backslash escapes. A cut keeps the piece's own
text, the lexeme, apart from the rest, and together they are the text that was cut.
-/

import Parlance.Text.Blank
import Parlance.Token.Kind

namespace Parlance

/-! ### Classes of characters -/

/-- Whether a word can begin with a character. -/
def startsWord (c : Char) : Bool :=
  c.isAlpha || c = '_'

/-- Whether a word can go on with a character. -/
def continuesWord (c : Char) : Bool :=
  c.isAlphanum || c = '_'

/-! ### Cuts -/

/-- What a piece of text is. -/
inductive Piece where
  /-- A run of blanks. -/
  | blanks
  /-- Two slashes and what follows them on the line. -/
  | remark
  | word
  | number
  /-- A string with the text between its quotes. -/
  | string (inner : List Char)
  | mark (symbol : Mark)
deriving DecidableEq

/-- Why no piece can be read. -/
inductive Obstacle where
  /-- A quote opens a string that is never closed. -/
  | unclosed
  /-- No piece begins with the character. -/
  | unknown (c : Char)
deriving DecidableEq

/-- A text with the piece at its front cut off. -/
structure Cut where
  piece : Piece
  lexeme : List Char
  rest : List Char
deriving DecidableEq

namespace Cut

/-- Cuts a text behind an opening quote into what stands before the closing quote and what stands
after it. A backslash takes the next character with it, which must not be a newline. -/
def closing? : List Char → Option (List Char × List Char)
  | [] => none
  | ['\\'] => none
  | '\\' :: c :: rest =>
    if c = '\n' then none
    else (closing? rest).map fun (inner, after) => ('\\' :: c :: inner, after)
  | c :: rest =>
    if c = '"' then some ([], rest)
    else (closing? rest).map fun (inner, after) => (c :: inner, after)

/-- Cuts a text behind its first digits where a number ends: a point belongs to the number only if
a digit follows it. -/
def fraction : List Char → List Char × List Char
  | '.' :: digit :: rest =>
    if digit.isDigit then
      ('.' :: digit :: rest.takeWhile Char.isDigit, rest.dropWhile Char.isDigit)
    else ([], '.' :: digit :: rest)
  | rest => ([], rest)

/-- Cuts off a piece that begins with `first` and goes on as long as the characters of `rest` have a
property. -/
def run (piece : Piece) (first : Char) (rest : List Char) (goesOn : Char → Bool) : Cut :=
  ⟨piece, first :: rest.takeWhile goesOn, rest.dropWhile goesOn⟩

/-- Cuts off the piece at the front of a text that begins with `first`. -/
def front (first : Char) (rest : List Char) : Except Obstacle Cut :=
  if startsWord first then .ok (run .word first rest continuesWord)
  else if first.isDigit then
    let decimals := fraction (rest.dropWhile Char.isDigit)
    .ok ⟨.number, first :: rest.takeWhile Char.isDigit ++ decimals.1, decimals.2⟩
  else if Text.isBlank first then .ok (run .blanks first rest Text.isBlank)
  else if first = '"' then
    match closing? rest with
    | some (inner, after) => .ok ⟨.string inner, '"' :: inner ++ ['"'], after⟩
    | none => .error .unclosed
  else if first = '/' && rest.head? = some '/' then .ok (run .remark first rest (· ≠ '\n'))
  else
    match Mark.ofChar? first with
    | some symbol => .ok ⟨.mark symbol, [first], rest⟩
    | none => .error (.unknown first)

/-! ### Nothing is lost -/

theorem closing?_eq_some {text inner after : List Char}
    (closed : closing? text = some (inner, after)) : text = inner ++ '"' :: after := by
  fun_induction closing? text generalizing inner with
  | case1 => simp at closed
  | case2 => simp at closed
  | case3 => simp at closed
  | case4 c rest _ inductionHypothesis =>
    obtain ⟨⟨inner', after'⟩, found, equal⟩ := Option.map_eq_some_iff.mp closed
    simp only [Prod.mk.injEq] at equal
    obtain ⟨rfl, rfl⟩ := equal
    simp [inductionHypothesis found]
  | case5 rest =>
    simp only [Option.some.injEq, Prod.mk.injEq] at closed
    obtain ⟨rfl, rfl⟩ := closed
    rfl
  | case6 c rest _ _ _ inductionHypothesis =>
    obtain ⟨⟨inner', after'⟩, found, equal⟩ := Option.map_eq_some_iff.mp closed
    simp only [Prod.mk.injEq] at equal
    obtain ⟨rfl, rfl⟩ := equal
    simp [inductionHypothesis found]

theorem fraction_append (text : List Char) : (fraction text).1 ++ (fraction text).2 = text := by
  unfold fraction
  split
  · split <;> simp
  · rfl

/-- The lexeme and the rest are the text that was cut. -/
theorem lexeme_append_rest {first : Char} {rest : List Char} {cut : Cut}
    (found : front first rest = .ok cut) : cut.lexeme ++ cut.rest = first :: rest := by
  unfold front at found
  split at found
  · cases found
    simp [run]
  · split at found
    · rw [← Except.ok.inj found, List.append_assoc, fraction_append]
      simp
    · split at found
      · cases found
        simp [run]
      · split at found
        · rename_i quote
          subst quote
          split at found
          · rename_i closed
            cases found
            simp [closing?_eq_some closed]
          · cases found
        · split at found
          · cases found
            simp [run]
          · split at found
            · cases found
              rfl
            · cases found

/-- The lexeme begins with the first character of the text. -/
theorem exists_lexeme_eq_cons {first : Char} {rest : List Char} {cut : Cut}
    (found : front first rest = .ok cut) : ∃ more, cut.lexeme = first :: more := by
  unfold front at found
  repeat' split at found
  all_goals cases found
  all_goals first | exact ⟨_, rfl⟩ | (rename_i quote _ _ _ _; exact ⟨_, by rw [quote]; rfl⟩)

/-- The rest is shorter than the text. -/
theorem length_rest_lt {first : Char} {rest : List Char} {cut : Cut}
    (found : front first rest = .ok cut) : cut.rest.length < (first :: rest).length := by
  obtain ⟨more, begins⟩ := exists_lexeme_eq_cons found
  rw [← lexeme_append_rest found, begins, List.cons_append, List.length_cons, List.length_append]
  omega

end Cut

end Parlance
