/-
This file writes text between double quotes. Six characters have escapes of two characters, an
unseen character is written by its code in lower-case hexadecimal, and every other character
stands for itself, so the quoted text stays on one line and ends at its own quote. The strings of
a source know the six short escapes too, and no others: they keep any other backslash.
-/

import Parlance.Text.Unseen

namespace Parlance.Text

/-- The letter that stands after a backslash for a character with a short escape. -/
def escapeLetter? (c : Char) : Option Char :=
  match c with
  | '\x00' => some '0'
  | '\t' => some 't'
  | '\r' => some 'r'
  | '\n' => some 'n'
  | '\\' => some '\\'
  | '"' => some '"'
  | _ => none

/-- The character that a letter stands for after a backslash. -/
def ofEscapeLetter? (letter : Char) : Option Char :=
  match letter with
  | '0' => some '\x00'
  | 't' => some '\t'
  | 'r' => some '\r'
  | 'n' => some '\n'
  | '\\' => some '\\'
  | '"' => some '"'
  | _ => none

/-- The two directions of a short escape belong together. -/
theorem ofEscapeLetter?_eq_some_iff (c letter : Char) :
    ofEscapeLetter? letter = some c ↔ escapeLetter? c = some letter := by
  constructor
  · intro found
    unfold ofEscapeLetter? at found
    split at found <;> cases found <;> rfl
  · intro found
    unfold escapeLetter? at found
    split at found <;> cases found <;> rfl

/-- The escape that names a character by its code. -/
def codeEscape (c : Char) : List Char :=
  '\\' :: 'u' :: '\x7b' :: Nat.toDigits 16 c.toNat ++ ['\x7d']

/-- How a character is written between quotes. -/
def quotedChar (c : Char) : List Char :=
  match escapeLetter? c with
  | some letter => ['\\', letter]
  | none => if isUnseen c then codeEscape c else [c]

/-- A text written between quotes. -/
def quoted (text : List Char) : List Char :=
  '"' :: text.flatMap quotedChar ++ ['"']

/-- The text that a string denotes, given what stands between its quotes. -/
def decoded : List Char → List Char
  | [] => []
  | ['\\'] => ['\\']
  | '\\' :: letter :: rest =>
    match ofEscapeLetter? letter with
    | some c => c :: decoded rest
    | none => '\\' :: letter :: decoded rest
  | c :: rest => c :: decoded rest

/-- A string written between quotes. -/
def quote (text : String) : String :=
  String.ofList (quoted text.toList)

end Parlance.Text
