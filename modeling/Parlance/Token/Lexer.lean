/-
This file turns a source into tokens. Pieces are cut from the front of the source one after
another; blanks and remarks are passed over, every other piece becomes a token that stands where
its lexeme begins, and a token for the end of the source closes the list. Where no piece can be
cut the whole source is refused.
-/

import Parlance.Fault
import Parlance.Number.Reader
import Parlance.Token.Basic
import Parlance.Token.Cut

namespace Parlance

/-- The name of a source that was not read from a file. -/
def defaultFile : String := "shell"

/-- The value that a reserved word carries. -/
def Word.literal? : Word → Option Literal
  | true_ => some (.bool true)
  | false_ => some (.bool false)
  | nothing => some .nothing
  | _ => none

/-- The fault that an obstacle is at a place. -/
def Obstacle.fault (obstacle : Obstacle) (place : Place) : Fault :=
  match obstacle with
  | unclosed => ⟨.unterminated place.line, place.position⟩
  | unknown c => ⟨.unrecognised (String.singleton c), place.position⟩

/-- The kind and the value of the token that a piece is, or `none` for a piece that is passed over.
A number whose lexeme denotes no number is refused with its cause. -/
def Piece.token? (piece : Piece) (lexeme : List Char) :
    Except Cause (Option (Kind × Option Literal)) :=
  match piece with
  | blanks => .ok none
  | remark => .ok none
  | word =>
    let text := String.ofList lexeme
    .ok (some (Kind.ofWord text, (Word.ofText? text).bind Word.literal?))
  | number =>
    match Number.ofText? lexeme with
    | some value => .ok (some (.number, some (.number value)))
    | none => .error (.badNumber (String.ofList lexeme))
  | string inner => .ok (some (.string, some (.string (String.ofList (Text.decoded inner)))))
  | mark symbol => .ok (some (.mark symbol, none))

/-- The token that a cut at a place gives. -/
def Cut.token? (cut : Cut) (place : Place) : Except Fault (Option Token) :=
  match cut.piece.token? cut.lexeme with
  | .error cause => .error ⟨cause, place.position⟩
  | .ok none => .ok none
  | .ok (some (kind, literal)) =>
    .ok (some
      ⟨kind, String.ofList cut.lexeme, literal, place.line, place.spanOf (Text.width cut.lexeme)⟩)

/-- The tokens of a text that begins at a place. -/
def tokensFrom (place : Place) (text : List Char) : Except Fault (List Token) :=
  match text with
  | [] => .ok [Token.eof place.line (place.spanOf 0)]
  | first :: rest =>
    match _found : Cut.front first rest with
    | .error obstacle => .error (obstacle.fault place)
    | .ok cut =>
      match cut.token? place with
      | .error fault => .error fault
      | .ok none => tokensFrom (place.past cut.lexeme) cut.rest
      | .ok (some token) => (tokensFrom (place.past cut.lexeme) cut.rest).map (token :: ·)
termination_by text.length
decreasing_by all_goals exact Cut.length_rest_lt ‹_›

/-- The tokens of a source, or the first fault in it. -/
def tokenize (source file : String) : Except Fault (List Token) :=
  tokensFrom { file } source.toList

end Parlance
