/-
This file holds expression trees. A tree keeps the tokens that name things or act as operators,
so that later stages can say where in the source a part of it stands.
-/

import Parlance.Token.Basic

namespace Parlance

/-- An expression. -/
inductive Expr where
  /-- A value written in the source. -/
  | literal (value : Literal)
  /-- A name that stands for its value. -/
  | name (name : Token)
  /-- A name that is given a value, as in `x be 1`. -/
  | assign (name : Token) (value : Expr)
  /-- Two operands of `and` or `or`, the second of which may not be needed. -/
  | logical (left : Expr) (operator : Token) (right : Expr)
  /-- Two operands compared by `is`, `am` or `are`. -/
  | binary (left : Expr) (operator : Token) (right : Expr)
  /-- An operand of `not`. -/
  | unary (operator : Token) (right : Expr)
  /-- A call, with the em-dash that closes its arguments. -/
  | call (callee : Expr) (arguments : List Expr) (paren : Token)

namespace Expr

/-- The name of an expression's form in reports. -/
def form : Expr → String
  | literal _ => "Literal"
  | name _ => "Variable"
  | assign _ _ => "Assignment"
  | logical _ _ _ => "Logical"
  | binary _ _ _ => "Binary"
  | unary _ _ => "Unary"
  | call _ _ _ => "Call"

mutual

/-- Whether two expressions are the same in every part, where numbers are compared as numbers. -/
def agrees : Expr → Expr → Bool
  | literal value, literal value' => value.agrees value'
  | name token, name token' => token.agrees token'
  | assign token value, assign token' value' => token.agrees token' && agrees value value'
  | logical left operator right, logical left' operator' right' =>
    agrees left left' && operator.agrees operator' && agrees right right'
  | binary left operator right, binary left' operator' right' =>
    agrees left left' && operator.agrees operator' && agrees right right'
  | unary operator right, unary operator' right' =>
    operator.agrees operator' && agrees right right'
  | call callee arguments paren, call callee' arguments' paren' =>
    agrees callee callee' && allAgree arguments arguments' && paren.agrees paren'
  | _, _ => false

/-- Whether two lists hold the same expressions in the same order. -/
def allAgree : List Expr → List Expr → Bool
  | [], [] => true
  | expr :: rest, expr' :: rest' => agrees expr expr' && allAgree rest rest'
  | _, _ => false

end

end Expr

end Parlance
