/-
This file holds the values that tokens and trees can carry, with their text and the sense in
which two of them agree.
-/

import Parlance.Number.Writer
import Parlance.Text.Quoted

namespace Parlance

/-- A value written in the source. -/
inductive Literal where
  | bool (value : Bool)
  | string (value : String)
  | number (value : Number)
  | nothing
deriving DecidableEq

namespace Literal

/-- The text of a value, in which strings are quoted. -/
def text : Literal → String
  | bool true => "true"
  | bool false => "false"
  | string value => Text.quote value
  | number value => value.text
  | nothing => "nothing"

/-- Whether two values are the same, where numbers are compared as numbers. -/
def agrees : Literal → Literal → Bool
  | number value, number value' => value.agrees value'
  | value, value' => value = value'

end Literal

end Parlance
