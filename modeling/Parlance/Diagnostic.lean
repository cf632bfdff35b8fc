/-
This file holds the diagnostics that reading a program leaves behind. Nothing is printed while a
program is read: each problem is kept with the token it was found at, and whoever asked for the
reading decides what becomes of it. A console writes each one on a line.
-/

import Parlance.Fault
import Parlance.Token.Basic

namespace Parlance

/-- The fault that a cause is at a token. -/
def Token.fault (token : Token) (cause : Cause) : Fault :=
  ⟨cause, token.position⟩

/-- A problem and the token it was found at. -/
structure Diagnostic where
  token : Token
  fault : Fault
deriving DecidableEq

namespace Diagnostic

/-- The line that tells of a diagnostic. -/
def line (diagnostic : Diagnostic) : String :=
  let location :=
    if diagnostic.token.kind = .eof then " at end"
    else " at '" ++ diagnostic.token.value ++ "'"
  "[line " ++ diagnostic.token.line.repr ++ "] Error" ++ location ++ ": " ++
    diagnostic.fault.cause.message

/-- Whether two diagnostics are the same in every part, where numbers are compared as numbers. -/
def agrees (diagnostic diagnostic' : Diagnostic) : Bool :=
  diagnostic.token.agrees diagnostic'.token && diagnostic.fault = diagnostic'.fault

end Diagnostic

/-! ### Where diagnostics go -/

/-- The diagnostics reported so far, the first one first. -/
@[ext]
structure Log where
  reported : List Diagnostic := []
deriving DecidableEq

namespace Log

/-- Adds a diagnostic at the end. -/
def report (log : Log) (diagnostic : Diagnostic) : Log :=
  ⟨log.reported ++ [diagnostic]⟩

/-- The number of diagnostics. -/
def size (log : Log) : Nat :=
  log.reported.length

/-- Whether nothing has been reported. -/
def isEmpty (log : Log) : Bool :=
  log.reported.isEmpty

/-- Whether something has been reported. -/
def hasErrors (log : Log) : Bool :=
  !log.isEmpty

/-- The number of diagnostics whose cause has a name. -/
def count (log : Log) (name : String) : Nat :=
  log.reported.countP (·.fault.cause.name = name)

/-- Whether two logs hold the same diagnostics in the same order. -/
def agrees (log log' : Log) : Bool :=
  log.size = log'.size && (log.reported.zip log'.reported).all fun (d, d') => d.agrees d'

end Log

/-- The lines a console has written, the first one first. -/
structure Console where
  lines : List String := []

namespace Console

/-- Writes the line of a diagnostic. -/
def report (console : Console) (diagnostic : Diagnostic) : Console :=
  ⟨console.lines ++ [diagnostic.line]⟩

/-- Whether something has been reported to the console. -/
def hadError (console : Console) : Bool :=
  !console.lines.isEmpty

/-- All that the console has written. -/
def text (console : Console) : String :=
  String.join (console.lines.map (· ++ "\n"))

end Console

end Parlance
