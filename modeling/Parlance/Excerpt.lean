/-
This file quotes a source where a fault was found. The line that holds the fault's offset is
shown without the spaces it begins with and the blanks it ends in, and a caret below it points at
the character at the offset. An offset at the end of the source or beyond it points behind the
last line. The caret stands at the end of a field that is filled up with dashes, and no field can be
wider than a line has room for.
-/

import Parlance.Fault
import Parlance.Text.Blank
import Parlance.Text.Lines

namespace Parlance

/-! ### The line at an offset -/

/-- Why an offset into a text cannot be shown. -/
inductive OffsetError where
  /-- The offset falls between two bytes of one character. -/
  | insideCharacter
  /-- The caret would need a wider field than there is. -/
  | beyondMargin
deriving DecidableEq

/-- A place in a text by its line. -/
structure Spot where
  /-- The number of the line, counted from `1`. -/
  number : Nat
  /-- The line with its newline. -/
  line : List Char
  /-- The number of characters of the line in front of the place. -/
  column : Nat
deriving DecidableEq

/-- The place of a byte offset in a list of lines, of which the first has the number `number`. -/
def spotIn (number offset : Nat) : List (List Char) → Except OffsetError (Option Spot)
  | [] => .ok none
  | line :: rest =>
    if offset < Text.width line then
      match Text.cut? offset line with
      | some (front, _) => .ok (some ⟨number, line, front.length⟩)
      | none => .error .insideCharacter
    else if rest.isEmpty then .ok (some ⟨number, line, line.length⟩)
    else spotIn (number + 1) (offset - Text.width line) rest

/-- The place of a byte offset in a source, or `none` in an empty source. -/
def spotAt (source : List Char) (offset : UInt32) : Except OffsetError (Option Spot) :=
  spotIn 1 offset.toNat (Text.lines source)

/-! ### Excerpts -/

/-- The number of characters that the widest field of a line has. -/
def maxField : Nat := 65535

namespace Spot

/-- The spaces that the line begins with. They are not shown. -/
def indent (spot : Spot) : List Char :=
  spot.line.takeWhile (· = ' ')

/-- The line as it is shown. -/
def shown (spot : Spot) : List Char :=
  let unindented := spot.line.dropWhile (· = ' ')
  (unindented.reverse.dropWhile Text.isBlank).reverse

/-- The dashes in front of the caret, one for each character shown before the place. -/
def dashes (spot : Spot) : List Char :=
  List.replicate (spot.column - spot.indent.length) '-'

/-- The blanks that stand where other lines of an excerpt have the number. -/
def gutter (spot : Spot) : List Char :=
  List.replicate ((Nat.toDigits 10 spot.number).length + 1) ' '

/-- The three lines of an excerpt: an empty one, the line of the source behind its number, and the
caret. -/
def excerpt (spot : Spot) : List (List Char) :=
  [spot.gutter ++ ['|'],
    Nat.toDigits 10 spot.number ++ " | ".toList ++ spot.shown,
    spot.gutter ++ "| ".toList ++ spot.dashes ++ ['^']]

/-- The excerpt, unless the dashes and the caret need too wide a field. -/
def checkedExcerpt (spot : Spot) : Except OffsetError (List (List Char)) :=
  if spot.dashes.length < maxField then .ok spot.excerpt else .error .beyondMargin

end Spot

/-- The lines that quote the place of an offset in a source. There are none in an empty source. -/
def excerptAt (source : List Char) (offset : UInt32) : Except OffsetError (List (List Char)) :=
  match spotAt source offset with
  | .error error => .error error
  | .ok none => .ok []
  | .ok (some spot) => spot.checkedExcerpt

namespace Fault

/-- The first line of a rendered fault: its name, and its tip if it has one. -/
def headline (fault : Fault) : String :=
  match fault.cause.tip? with
  | none => "Error: " ++ fault.cause.name
  | some tip => "Error: " ++ fault.cause.name ++ " (" ++ tip ++ ")"

/-- A fault quoted from its source, of which `file` is the name to show. -/
def render (fault : Fault) (source file : String) : Except OffsetError String :=
  (excerptAt source.toList fault.position.offset).map fun excerpt =>
    String.join ((fault.headline :: ("-> " ++ file) :: excerpt.map String.ofList).map (· ++ "\n"))

end Fault

end Parlance
