/-
This file writes trees as text: each node stands in parentheses behind the word for its form or
its operator, with a blank before each of its parts. A program has one line for each statement.
-/

import Parlance.Tree.Stmt

namespace Parlance

/-- Texts one after another with a separator between them. -/
def joined (separator : String) : List String → String
  | [] => ""
  | [text] => text
  | text :: rest => text ++ separator ++ joined separator rest

namespace Expr

mutual

/-- The text of an expression. -/
def text : Expr → String
  | literal value => value.text
  | name token => token.value
  | assign token value => "(be " ++ token.value ++ " " ++ text value ++ ")"
  | logical left operator right =>
    "(" ++ operator.value ++ " " ++ text left ++ " " ++ text right ++ ")"
  | binary left operator right =>
    "(" ++ operator.value ++ " " ++ text left ++ " " ++ text right ++ ")"
  | unary operator right => "(" ++ operator.value ++ " " ++ text right ++ ")"
  | call callee arguments _ => "(call " ++ text callee ++ spacedText arguments ++ ")"

/-- The texts of several expressions, each behind a blank. -/
def spacedText : List Expr → String
  | [] => ""
  | expr :: rest => " " ++ text expr ++ spacedText rest

end

end Expr

namespace Stmt

mutual

/-- The text of a statement. -/
def text : Stmt → String
  | expression value => "(expr " ++ value.text ++ ")"
  | print value => "(print " ++ value.text ++ ")"
  | var name none => "(var " ++ name.value ++ ")"
  | var name (some initial) => "(var " ++ name.value ++ " " ++ initial.text ++ ")"
  | block body => "(block" ++ spacedText body ++ ")"
  | ifThen condition body => "(if " ++ condition.text ++ " " ++ text body ++ ")"
  | ifElse condition body otherwise =>
    "(if " ++ condition.text ++ " " ++ text body ++ " " ++ text otherwise ++ ")"
  | whileDo condition body => "(while " ++ condition.text ++ " " ++ text body ++ ")"
  | function name parameters body =>
    "(to " ++ name.value ++ " (" ++ joined " " (parameters.map Token.value) ++ ")" ++
      spacedText body ++ ")"
  | returns _ none => "(return)"
  | returns _ (some value) => "(return " ++ value.text ++ ")"
  | error token => "(error " ++ Text.quote token.value ++ ")"

/-- The texts of several statements, each behind a blank. -/
def spacedText : List Stmt → String
  | [] => ""
  | stmt :: rest => " " ++ text stmt ++ spacedText rest

end

end Stmt

/-- The text of a program. -/
def programText (program : List Stmt) : String :=
  joined "\n" (program.map Stmt.text)

end Parlance
