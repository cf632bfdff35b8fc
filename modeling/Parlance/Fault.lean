/-
This file holds what can be wrong with a source. A fault is a cause at a position. Each cause has
a name, a description that shows its details, a message for the reader of the source, and all
but one have a tip that stands beside the name when the source is quoted.
-/

import Parlance.Token.Place
import Parlance.Text.Quoted

namespace Parlance

/-- The most parameters a function can have, and the most arguments a call can have. -/
def maxArity : Nat := 255

/-- What is wrong with a source. -/
inductive Cause where
  /-- A text that begins no token. -/
  | unrecognised (text : String)
  /-- A string that begins on a line and is never closed. -/
  | unterminated (line : Nat)
  /-- A text that should denote a number and does not. -/
  | badNumber (text : String)
  /-- A token stands where another is required, as the message says. -/
  | missing (found message : String)
  /-- An assignment to something other than a variable. -/
  | badTarget
  /-- A list with more items than its limit. -/
  | tooMany (items : String) (limit : Nat)
  /-- A token stands where an expression should begin. -/
  | noExpression (found : String)
deriving DecidableEq

namespace Cause

/-- The name of a cause in reports. -/
def name : Cause → String
  | unrecognised _ => "UnrecognisedToken"
  | unterminated _ => "UnterminatedString"
  | badNumber _ => "NumberParseError"
  | missing _ _ => "MissingExpectedToken"
  | badTarget => "InvalidAssignmentTarget"
  | tooMany _ _ => "ArityExceeded"
  | noExpression _ => "UnexpectedPrimary"

/-- A description of a cause with its details, texts of the source quoted. -/
def description : Cause → String
  | unrecognised text => "unrecognised token: " ++ Text.quote text
  | unterminated line => "unterminated string starting on line " ++ line.repr
  | badNumber text => "error parsing number: " ++ Text.quote text
  | missing found message => "missing expected token at " ++ Text.quote found ++ ": " ++ message
  | badTarget => "invalid assignment target"
  | tooMany items limit => "more than " ++ limit.repr ++ " " ++ items
  | noExpression found => "expected expression, found " ++ Text.quote found

/-- What the reader of the source is told. -/
def message : Cause → String
  | missing _ message => message
  | badTarget => "Invalid assignment target."
  | tooMany items limit => "Can't have more than " ++ limit.repr ++ " " ++ items ++ "."
  | noExpression _ => "Expect expression."
  | cause => cause.description

/-- What may help to mend the source. -/
def tip? : Cause → Option String
  | unrecognised _ => none
  | unterminated line => some ("String starting on line " ++ line.repr ++ " is never closed")
  | badNumber text => some ("Invalid number: `" ++ text ++ "`")
  | missing _ message => some message
  | badTarget => some "Only a variable can appear before `be`"
  | tooMany items limit => some ("Can't have more than " ++ limit.repr ++ " " ++ items)
  | noExpression found =>
    some ("Unexpected token: `" ++ found ++ "`, expected a literal or a name")

end Cause

/-- A cause and where it was found. -/
structure Fault where
  cause : Cause
  position : Position
deriving DecidableEq

/-- A fault as one line of text. -/
def Fault.text (fault : Fault) : String :=
  fault.cause.name ++ ": " ++ fault.cause.description

end Parlance
