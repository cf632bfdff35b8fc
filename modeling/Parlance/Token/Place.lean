/-
This file locates tokens. A position is a byte offset into a named source, held in 32 bits, and
a span runs from one position to another. A place is where reading has got to: its offset has no
bound, and it knows the number of its line.
-/

import Parlance.Text.Width

namespace Parlance

/-- A byte offset into a source. -/
structure Position where
  offset : UInt32
  file : String
deriving DecidableEq

/-- The part of a source from `start` up to `stop`. -/
structure Span where
  start : Position
  stop : Position
deriving DecidableEq

/-- How far a source has been read. -/
structure Place where
  /-- The number of bytes read. -/
  offset : Nat := 0
  /-- The number of the current line, counted from `1`. -/
  line : Nat := 1
  /-- The name of the source. -/
  file : String
deriving DecidableEq

namespace Place

/-- The position of a place, whose offset is taken modulo `2 ^ 32`. -/
def position (place : Place) : Position :=
  ⟨place.offset.toUInt32, place.file⟩

/-- The place some bytes further on the same line. -/
def advance (place : Place) (bytes : Nat) : Place :=
  { place with offset := place.offset + bytes }

/-- The span of the next bytes. -/
def spanOf (place : Place) (bytes : Nat) : Span :=
  ⟨place.position, (place.advance bytes).position⟩

/-- The place behind a text that begins here. -/
def past (place : Place) (text : List Char) : Place :=
  { place with
    offset := place.offset + Text.width text
    line := place.line + Text.lineEnds text }

end Place

end Parlance
