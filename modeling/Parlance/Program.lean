/-
This file reads whole programs, from tokens or from a source. Reading tokens always gives a
program, together with the log of what is wrong with it; a source can also be refused as a whole,
when it cannot be divided into tokens.
-/

import Parlance.Pass.Statement
import Parlance.Token.Lexer
import Parlance.Tree.Printer

namespace Parlance

/-- A program and what was reported while it was read. -/
structure Program where
  statements : List Stmt
  log : Log

namespace Program

/-- Reads a program from tokens. -/
def ofTokens (tokens : List Token) (file : String) : Program :=
  let (statements, pass) := (Pass.start tokens file).declarations
  ⟨statements, pass.log⟩

/-- Reads a program from a source. -/
def ofSource (source file : String) : Except Fault Program :=
  (tokenize source file).map fun tokens => ofTokens tokens file

end Program

end Parlance
