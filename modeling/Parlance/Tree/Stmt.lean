/-
This file holds statement trees. Where a declaration could not be read, an error statement takes
its place with the token at which reading stopped, so a program keeps one statement for each
declaration that was attempted.
-/

import Parlance.Tree.Expr

namespace Parlance

/-- A statement or declaration. -/
inductive Stmt where
  /-- An expression that is evaluated for its effect. -/
  | expression (value : Expr)
  /-- A value that is printed. -/
  | print (value : Expr)
  /-- The declaration of a variable, which may have a first value. -/
  | var (name : Token) (initial : Option Expr)
  | block (body : List Stmt)
  | ifThen (condition : Expr) (body : Stmt)
  | ifElse (condition : Expr) (body : Stmt) (otherwise : Stmt)
  | whileDo (condition : Expr) (body : Stmt)
  /-- The declaration of a function. -/
  | function (name : Token) (parameters : List Token) (body : List Stmt)
  /-- The end of a function, with the ampersand that says so. -/
  | returns (keyword : Token) (value : Option Expr)
  /-- Stands for a declaration that could not be read, with the token where reading stopped. -/
  | error (token : Token)

namespace Stmt

/-- The name of a statement's form in reports. -/
def form : Stmt → String
  | expression _ => "ExpressionStmt"
  | print _ => "PrintStmt"
  | var _ _ => "VarDeclStmt"
  | block _ => "BlockStmt"
  | ifThen _ _ => "IfStmt"
  | ifElse _ _ _ => "IfStmt"
  | whileDo _ _ => "WhileStmt"
  | function _ _ _ => "FnDeclStmt"
  | returns _ _ => "ReturnStmt"
  | error _ => "ErrorStmt"

/-! ### Errors inside a statement -/

mutual

/-- Whether a statement is an error or has one inside it. -/
def containsError : Stmt → Bool
  | error _ => true
  | block body => anyContainsError body
  | function _ _ body => anyContainsError body
  | ifThen _ body => containsError body
  | ifElse _ body otherwise => containsError body || containsError otherwise
  | whileDo _ body => containsError body
  | _ => false

/-- Whether one of several statements is an error or has one inside it. -/
def anyContainsError : List Stmt → Bool
  | [] => false
  | stmt :: rest => containsError stmt || anyContainsError rest

end

/-! ### Agreement -/

/-- Whether two optional expressions are both absent, or both present and the same. -/
def optionAgrees : Option Expr → Option Expr → Bool
  | none, none => true
  | some expr, some expr' => expr.agrees expr'
  | _, _ => false

mutual

/-- Whether two statements are the same in every part, where numbers are compared as numbers. -/
def agrees : Stmt → Stmt → Bool
  | expression value, expression value' => value.agrees value'
  | print value, print value' => value.agrees value'
  | var name initial, var name' initial' => name.agrees name' && optionAgrees initial initial'
  | block body, block body' => allAgree body body'
  | ifThen condition body, ifThen condition' body' =>
    condition.agrees condition' && agrees body body'
  | ifElse condition body otherwise, ifElse condition' body' otherwise' =>
    condition.agrees condition' && agrees body body' && agrees otherwise otherwise'
  | whileDo condition body, whileDo condition' body' =>
    condition.agrees condition' && agrees body body'
  | function name parameters body, function name' parameters' body' =>
    name.agrees name' && Token.allAgree parameters parameters' && allAgree body body'
  | returns keyword value, returns keyword' value' =>
    keyword.agrees keyword' && optionAgrees value value'
  | error token, error token' => token.agrees token'
  | _, _ => false

/-- Whether two lists hold the same statements in the same order. -/
def allAgree : List Stmt → List Stmt → Bool
  | [], [] => true
  | stmt :: rest, stmt' :: rest' => agrees stmt stmt' && allAgree rest rest'
  | _, _ => false

end

end Stmt

end Parlance
