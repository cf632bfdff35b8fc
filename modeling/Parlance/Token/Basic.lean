/-
This file holds tokens: a kind, the text it was read from, the value it carries if its kind has
one, and where it stands.
-/

import Parlance.Token.Kind
import Parlance.Token.Literal
import Parlance.Token.Place

namespace Parlance

/-- A token of the language. -/
structure Token where
  kind : Kind
  /-- The text of the token. -/
  value : String
  literal : Option Literal
  /-- The number of the line on which the token begins. -/
  line : Nat
  span : Span
deriving DecidableEq

namespace Token

/-- The token that stands for the end of a source. -/
def eof (line : Nat) (span : Span) : Token :=
  ⟨.eof, "EOF", none, line, span⟩

/-- The position of a token is where it begins. -/
def position (token : Token) : Position :=
  token.span.start

/-- The token on two lines, its kind above its text. -/
def text (token : Token) : String :=
  "Token \x7b\nkind: " ++ token.kind.name ++ ",\nvalue: " ++ token.value ++ "\x7d"

/-- Whether two tokens are the same in every part, where numbers are compared as numbers. -/
def agrees (token token' : Token) : Bool :=
  token.kind = token'.kind && token.value = token'.value &&
    (match token.literal, token'.literal with
      | some literal, some literal' => literal.agrees literal'
      | none, none => true
      | _, _ => false) &&
    token.line = token'.line && token.span = token'.span

/-- Whether two lists hold the same tokens in the same order. -/
def allAgree : List Token → List Token → Bool
  | [], [] => true
  | token :: rest, token' :: rest' => token.agrees token' && allAgree rest rest'
  | _, _ => false

end Token

end Parlance
