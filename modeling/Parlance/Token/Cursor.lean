/-
This file holds a cursor into a source. It can be moved by any number of bytes, so it may come to
stand inside a character or beyond the end, and what is left of the source can then not be told.
-/

import Parlance.Token.Place

namespace Parlance

/-- A place in a source. -/
structure Cursor extends Place where
  source : String

namespace Cursor

/-- The cursor at the beginning of a source. -/
def start (source file : String) : Cursor :=
  { source, file }

/-- The cursor some bytes further. -/
def advance (cursor : Cursor) (bytes : Nat) : Cursor :=
  { cursor with toPlace := cursor.toPlace.advance bytes }

/-- Whether all of the source has been passed. -/
def atEnd (cursor : Cursor) : Bool :=
  Text.width cursor.source.toList ≤ cursor.offset

/-- What is left of the source, or `none` where the cursor stands inside a character or beyond the
end. -/
def remainder? (cursor : Cursor) : Option (List Char) :=
  (Text.cut? cursor.offset cursor.source.toList).map Prod.snd

/-- The character under the cursor, which is NUL at the end of the source. -/
def current? (cursor : Cursor) : Option Char :=
  cursor.remainder?.map fun text => text.head?.getD '\x00'

end Cursor

end Parlance
