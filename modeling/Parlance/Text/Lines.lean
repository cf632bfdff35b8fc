/-
This file divides a text into lines. A line keeps the newline that ends it, so the lines of a
text put side by side are the text again, and no line is empty: text that ends in a newline has
no further line after it.
-/

namespace Parlance.Text

/-- The lines of a text in order, each with its newline. -/
def lines : List Char → List (List Char)
  | [] => []
  | c :: rest =>
    if c = '\n' then [c] :: lines rest
    else
      match lines rest with
      | [] => [[c]]
      | line :: others => (c :: line) :: others

/-- No text is lost or added between the lines. -/
theorem flatten_lines (text : List Char) : (lines text).flatten = text := by
  induction text with
  | nil => rfl
  | cons c rest inductionHypothesis =>
    rw [lines]
    split
    · rw [List.flatten_cons, inductionHypothesis, List.singleton_append]
    · cases equation : lines rest with
      | nil =>
        rw [equation, List.flatten_nil] at inductionHypothesis
        rw [← inductionHypothesis]
        rfl
      | cons line others =>
        rw [equation, List.flatten_cons] at inductionHypothesis
        rw [List.flatten_cons, List.cons_append, inductionHypothesis]

end Parlance.Text
