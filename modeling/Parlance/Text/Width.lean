/-
This file measures text in UTF-8 bytes. Offsets into a source count bytes, while text itself is
a list of characters, so a text can be cut at an offset only where a character begins or the
text ends.
-/

namespace Parlance.Text

/-- The number of bytes a text takes in UTF-8. -/
def width : List Char → Nat
  | [] => 0
  | c :: rest => c.utf8Size + width rest

@[simp]
theorem width_nil : width [] = 0 := rfl

@[simp]
theorem width_cons (c : Char) (rest : List Char) : width (c :: rest) = c.utf8Size + width rest :=
  rfl

@[simp]
theorem width_append (front back : List Char) :
    width (front ++ back) = width front + width back := by
  induction front with
  | nil => rw [List.nil_append, width_nil, Nat.zero_add]
  | cons c rest inductionHypothesis =>
    rw [List.cons_append, width_cons, width_cons, inductionHypothesis, Nat.add_assoc]

/-- The two parts of a text on either side of a byte offset, or `none` when the offset falls
inside a character or beyond the end. -/
def cut? : Nat → List Char → Option (List Char × List Char)
  | 0, text => some ([], text)
  | _ + 1, [] => none
  | offset + 1, c :: rest =>
    if c.utf8Size ≤ offset + 1 then
      (cut? (offset + 1 - c.utf8Size) rest).map fun (front, back) => (c :: front, back)
    else none

/-- A cut loses nothing, and its front is as wide as the offset. -/
theorem append_of_cut?_eq_some {offset : Nat} {text front back : List Char}
    (equal : cut? offset text = some (front, back)) :
    front ++ back = text ∧ width front = offset := by
  fun_induction cut? offset text generalizing front with
  | case1 text =>
    simp only [Option.some.injEq, Prod.mk.injEq] at equal
    obtain ⟨rfl, rfl⟩ := equal
    exact ⟨rfl, rfl⟩
  | case2 => cases equal
  | case3 offset c rest fits inductionHypothesis =>
    obtain ⟨⟨front', back'⟩, found, pair⟩ := Option.map_eq_some_iff.mp equal
    simp only [Prod.mk.injEq] at pair
    obtain ⟨rfl, rfl⟩ := pair
    obtain ⟨appended, wide⟩ := inductionHypothesis found
    refine ⟨by rw [List.cons_append, appended], ?_⟩
    rw [width_cons, wide]
    omega
  | case4 => cases equal

/-- A text can be cut behind each of its fronts. -/
theorem cut?_width (front back : List Char) :
    cut? (width front) (front ++ back) = some (front, back) := by
  induction front with
  | nil => exact cut?.eq_1 back
  | cons c rest inductionHypothesis =>
    have positive : 0 < c.utf8Size := Char.utf8Size_pos c
    obtain ⟨before, size⟩ : ∃ before, c.utf8Size + width rest = before + 1 :=
      ⟨c.utf8Size + width rest - 1, by omega⟩
    have fits : c.utf8Size ≤ before + 1 := by omega
    have left : before + 1 - c.utf8Size = width rest := by omega
    rw [width_cons, size, List.cons_append, cut?, if_pos fits, left, inductionHypothesis]
    rfl

/-- The number of line ends in a text. -/
def lineEnds (text : List Char) : Nat :=
  text.count '\n'

end Parlance.Text
