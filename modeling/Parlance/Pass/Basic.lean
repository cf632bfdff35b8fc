/-
This file holds a pass over a list of tokens. A pass has all the tokens, closed by an end token if
they did not end in one, and a cursor, the index of the current token. It never gets beyond an end
token: there the pass is at its end, nothing is read and no kind is found. A pass also holds the log
of what it has reported and two tables, which say by the kind of the current token how a declaration
and how a statement is read.
-/

import Parlance.Diagnostic

namespace Parlance

/-- A way to read a statement. -/
inductive Rule where
  | function
  | var
  | ifElse
  | print
  | returns
  | whileDo
  | block
  | expression
deriving DecidableEq

/-- Which rule reads what begins with a kind of token. -/
abbrev RuleTable := Kind → Option Rule

namespace RuleTable

/-- The table that also has a rule for a kind, in place of any it had. -/
def set (table : RuleTable) (kind : Kind) (rule : Rule) : RuleTable :=
  fun other => if other = kind then some rule else table other

/-- The rules for declarations. -/
def declarations : RuleTable
  | .word .to_ => some .function
  | .word .let_ => some .var
  | _ => none

/-- The rules for statements. Whatever else a statement begins with, it is an expression. -/
def statements : RuleTable
  | .word .if_ => some .ifElse
  | .word .print => some .print
  | .word .know => some .print
  | .word .say => some .print
  | .mark .ampersand => some .returns
  | .word .while_ => some .whileDo
  | .mark .colon => some .block
  | _ => none

end RuleTable

namespace Token

variable (tokens : List Token) (file : String)

/-- The end token for a list of tokens that has none: it stands where the last token ends. -/
def eofAfter : Token :=
  match tokens.getLast? with
  | some last => eof last.line ⟨last.span.stop, last.span.stop⟩
  | none => eof 1 ⟨⟨0, file⟩, ⟨0, file⟩⟩

theorem kind_eofAfter : (eofAfter tokens file).kind = .eof := by
  unfold eofAfter
  split <;> rfl

/-- A list of tokens as a pass gets it: one that does not end in an end token is given one. -/
def closed : List Token :=
  if tokens.getLast?.any (·.kind = .eof) then tokens else tokens ++ [eofAfter tokens file]

theorem getLast?_closed : (closed tokens file).getLast?.any (·.kind = .eof) = true := by
  unfold closed
  split
  · assumption
  · simp [kind_eofAfter]

theorem closed_ne_nil : closed tokens file ≠ [] := by
  intro empty
  have last := getLast?_closed tokens file
  rw [empty] at last
  cases last

end Token

/-- A pass over tokens. -/
@[ext]
structure Pass where
  /-- All tokens, also those that are never read. -/
  stream : Array Token
  /-- The last token is an end token. -/
  closed : stream.back?.any (·.kind = .eof) = true
  /-- The number of tokens that have been read. -/
  cursor : Nat
  /-- There is a token at the cursor. -/
  inside : cursor < stream.size
  /-- The name of the source. -/
  file : String
  log : Log
  declarationRules : RuleTable
  statementRules : RuleTable

namespace Pass

/-- The pass that is about to read a list of tokens. -/
def start (tokens : List Token) (file : String) : Pass where
  stream := (Token.closed tokens file).toArray
  closed := by
    rw [List.back?_toArray]
    exact Token.getLast?_closed tokens file
  cursor := 0
  inside := List.length_pos_iff.mpr (Token.closed_ne_nil tokens file)
  file := file
  log := {}
  declarationRules := .declarations
  statementRules := .statements

/-! ### Looking -/

/-- The next token to be read, which at the end is the end token. -/
def current (pass : Pass) : Token :=
  have inside := pass.inside
  pass.stream[pass.cursor]

/-- The token in front of the current one, or the current one if it is the first. -/
def previous (pass : Pass) : Token :=
  have inside : pass.cursor - 1 < pass.stream.size :=
    Nat.lt_of_le_of_lt (Nat.sub_le _ _) pass.inside
  pass.stream[pass.cursor - 1]

/-- Whether the current token is an end token. -/
def atEnd (pass : Pass) : Bool :=
  pass.current.kind = .eof

/-- Whether the next token to be read has a kind. At the end there is no such token. -/
def check (pass : Pass) (kind : Kind) : Bool :=
  !pass.atEnd && pass.current.kind = kind

/-- The number of tokens that are left, the current one included. -/
def left (pass : Pass) : Nat :=
  pass.stream.size - pass.cursor

/-! ### Moving -/

/-- Behind a token that is no end token there is another one. -/
theorem cursor_succ_lt {pass : Pass} (notAtEnd : ¬ pass.atEnd) :
    pass.cursor + 1 < pass.stream.size := by
  refine Nat.lt_of_le_of_ne pass.inside fun isLast => notAtEnd ?_
  have closed := pass.closed
  have last : pass.stream.back? = some pass.current := by
    rw [Array.back?, ← isLast, Nat.add_sub_cancel]
    exact Array.getElem?_eq_getElem pass.inside
  rwa [last] at closed

/-- Reads the current token, unless the pass is at its end. -/
def advance (pass : Pass) : Pass :=
  if atEnd : pass.atEnd then pass
  else { pass with cursor := pass.cursor + 1, inside := cursor_succ_lt atEnd }

theorem left_advance {pass : Pass} (notAtEnd : ¬ pass.atEnd) :
    pass.advance.left + 1 = pass.left := by
  have inside := pass.inside
  have next : pass.advance.left = pass.stream.size - (pass.cursor + 1) := by
    rw [advance, dif_neg notAtEnd]
    rfl
  rw [next, left]
  omega

/-- Reads the current token if its kind is one of those given. -/
def take? (pass : Pass) (kinds : List Kind) : Option (Token × Pass) :=
  if kinds.any pass.check then some (pass.advance.previous, pass.advance) else none

/-- Passes over tokens until the one in front of the current one is a semicolon or the current one
begins a statement. -/
def skip (pass : Pass) : Pass :=
  if pass.atEnd then pass
  else if pass.previous.kind = .mark .semicolon then pass
  else if pass.current.kind ∈ Kind.openers then pass
  else pass.advance.skip
termination_by pass.left
decreasing_by
  rename_i notAtEnd _ _
  exact Nat.lt_of_succ_le (Nat.le_of_eq (left_advance notAtEnd))

/-- Passes over tokens to where reading can be resumed after a failure. The current token is passed
over in any case, so that a failure cannot repeat itself forever. -/
def synchronize (pass : Pass) : Pass :=
  pass.advance.skip

/-! ### Reporting -/

/-- Puts a fault into the log, found at a token. -/
def reportFault (pass : Pass) (token : Token) (fault : Fault) : Pass :=
  { pass with log := pass.log.report ⟨token, fault⟩ }

/-- Puts a cause into the log, found at a token and located there. -/
def report (pass : Pass) (token : Token) (cause : Cause) : Pass :=
  pass.reportFault token (token.fault cause)

/-- The pass that reads declarations that begin with a kind by a rule. -/
def setDeclarationRule (pass : Pass) (kind : Kind) (rule : Rule) : Pass :=
  { pass with declarationRules := pass.declarationRules.set kind rule }

/-- The pass that reads statements that begin with a kind by a rule. -/
def setStatementRule (pass : Pass) (kind : Kind) (rule : Rule) : Pass :=
  { pass with statementRules := pass.statementRules.set kind rule }

end Pass

/-! ### Readings -/

/-- A part of a pass that reads a value or fails with a fault. A failure undoes nothing: the pass
stays where it was when the fault was found. -/
abbrev Reading (α : Type) := EStateM Fault Pass α

namespace Reading

/-- Fails at the current token. -/
def fail {α : Type} (cause : Token → Cause) : Reading α := fun pass =>
  .error (pass.current.fault (cause pass.current)) pass

/-- Reads the current token if its kind is one of those given. -/
def take? (kinds : List Kind) : Reading (Option Token) := fun pass =>
  match pass.take? kinds with
  | some (token, next) => .ok (some token) next
  | none => .ok none pass

/-- Reads a token of a kind, or fails with a message at the current token. -/
def expect (kind : Kind) (message : String) : Reading Token := fun pass =>
  if pass.check kind then .ok pass.advance.previous pass.advance
  else fail (fun token => .missing token.value message) pass

/-- Reads the current token, whatever it is. -/
def advance : Reading Token := fun pass =>
  .ok pass.advance.previous pass.advance

end Reading

end Parlance
