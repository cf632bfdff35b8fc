/-
This file lists the kinds of token: the marks and reserved words of the language, the three
kinds whose text varies, and the end of the source. Each mark is one character and each reserved
word one spelling, so both can be looked up by their text.
-/

namespace Parlance

/-! ### Marks -/

/-- A punctuation mark. -/
inductive Mark where
  | emDash
  | comma
  | colon
  | dot
  | semicolon
  | ampersand
deriving DecidableEq

namespace Mark

/-- The marks. -/
def all : List Mark :=
  [emDash, comma, colon, dot, semicolon, ampersand]

/-- The character of a mark. -/
def char : Mark → Char
  | emDash => '—'
  | comma => ','
  | colon => ':'
  | dot => '.'
  | semicolon => ';'
  | ampersand => '&'

/-- The mark that a character is. -/
def ofChar? (c : Char) : Option Mark :=
  all.find? (·.char = c)

theorem ofChar?_char (mark : Mark) : ofChar? mark.char = some mark := by
  cases mark <;> rfl

theorem char_of_ofChar? {c : Char} {mark : Mark} (found : ofChar? c = some mark) :
    mark.char = c := by
  simpa using List.find?_some found

/-- The name of a mark in reports. -/
def name : Mark → String
  | emDash => "EmDash"
  | comma => "Comma"
  | colon => "Colon"
  | dot => "Dot"
  | semicolon => "Semicolon"
  | ampersand => "Ampersand"

end Mark

/-! ### Reserved words -/

/-- A reserved word. -/
inductive Word where
  | to_
  | let_
  | be
  | if_
  | else_
  | while_
  | for_
  | print
  | know
  | say
  | or
  | and
  | is
  | am
  | are
  | not
  | true_
  | false_
  | nothing
deriving DecidableEq

namespace Word

/-- The reserved words. -/
def all : List Word :=
  [to_, let_, be, if_, else_, while_, for_, print, know, say, or, and, is, am, are, not, true_,
    false_, nothing]

/-- The spelling of a word. -/
def text : Word → String
  | to_ => "to"
  | let_ => "let"
  | be => "be"
  | if_ => "if"
  | else_ => "else"
  | while_ => "while"
  | for_ => "for"
  | print => "print"
  | know => "know"
  | say => "say"
  | or => "or"
  | and => "and"
  | is => "is"
  | am => "am"
  | are => "are"
  | not => "not"
  | true_ => "true"
  | false_ => "false"
  | nothing => "nothing"

/-- The reserved word with a spelling. -/
def ofText? (text : String) : Option Word :=
  all.find? (·.text = text)

theorem ofText?_text (word : Word) : ofText? word.text = some word := by
  cases word <;> rfl

theorem text_of_ofText? {text : String} {word : Word} (found : ofText? text = some word) :
    word.text = text := by
  simpa using List.find?_some found

/-- The name of a word in reports. -/
def name : Word → String
  | to_ => "To"
  | let_ => "Let"
  | be => "Be"
  | if_ => "If"
  | else_ => "Else"
  | while_ => "While"
  | for_ => "For"
  | print => "Print"
  | know => "Know"
  | say => "Say"
  | or => "Or"
  | and => "And"
  | is => "Is"
  | am => "Am"
  | are => "Are"
  | not => "Not"
  | true_ => "True"
  | false_ => "False"
  | nothing => "Nothing"

end Word

/-! ### Kinds -/

/-- The kind of a token. -/
inductive Kind where
  /-- The end of the source. -/
  | eof
  | number
  | string
  /-- A word that is not reserved. -/
  | identifier
  | mark (symbol : Mark)
  | word (reserved : Word)
deriving DecidableEq

namespace Kind

/-- The name of a kind in reports. -/
def name : Kind → String
  | eof => "EOF"
  | number => "Number"
  | string => "String"
  | identifier => "Identifier"
  | mark symbol => symbol.name
  | word reserved => reserved.name

/-- The kinds. -/
def all : List Kind :=
  [eof, number, string, identifier] ++ Mark.all.map mark ++ Word.all.map word

/-- The kind with a name. -/
def ofName? (name : String) : Option Kind :=
  all.find? (·.name = name)

theorem ofName?_name (kind : Kind) : ofName? kind.name = some kind := by
  cases kind with
  | eof => rfl
  | number => rfl
  | string => rfl
  | identifier => rfl
  | mark symbol => cases symbol <;> rfl
  | word reserved => cases reserved <;> rfl

/-- The kind of a word: its own if it is reserved, and a name otherwise. -/
def ofWord (text : String) : Kind :=
  match Word.ofText? text with
  | some reserved => word reserved
  | none => identifier

/-- The words that say a value is equal to another, which all mean the same. -/
def equalities : List Kind :=
  [word .is, word .am, word .are]

/-- The words that print a value, which all mean the same. -/
def prints : List Kind :=
  [word .print, word .know, word .say]

/-- The kinds that begin a declaration or statement, in front of which reading resumes after a
failure. No statement begins with `for`, yet reading resumes in front of it too. -/
def openers : List Kind :=
  [word .to_, word .let_, word .for_, word .if_, word .while_, word .print, word .know, word .say,
    mark .ampersand]

end Kind

end Parlance
