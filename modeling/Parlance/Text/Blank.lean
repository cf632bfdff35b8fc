/-
This file says which characters are blank. Blanks separate words and are cut from the end of a
quoted source line; they are the characters with the Unicode property `White_Space`, a set that
has not changed since version 4.1 of that standard. Core's `Char.isWhitespace` knows only four
of them.
-/

namespace Parlance.Text

/-- Whether a character has the Unicode property `White_Space`. -/
def isBlank (c : Char) : Bool :=
  let code := c.toNat
  (0x09 ≤ code && code ≤ 0x0D) || code == 0x20 || code == 0x85 || code == 0xA0 ||
    code == 0x1680 || (0x2000 ≤ code && code ≤ 0x200A) || code == 0x2028 || code == 0x2029 ||
    code == 0x202F || code == 0x205F || code == 0x3000

/-- Every character that core counts as white space is blank. -/
theorem isBlank_of_isWhitespace (c : Char) (white : c.isWhitespace) : isBlank c := by
  simp only [Char.isWhitespace, Bool.or_eq_true, decide_eq_true_eq] at white
  rcases white with ((rfl | rfl) | rfl) | rfl <;> decide

end Parlance.Text
