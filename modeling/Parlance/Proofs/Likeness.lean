/-
This file says when two programs are alike: they have the same form, the same literals stand in
them, and the tokens that they keep correspond to each other one by one. Which tokens correspond is
a relation that the programs are compared by, and the tokens of errors can have one of their own.
The tokens of two programs that are alike, listed in the order of the source, correspond to each
other too.
-/

import Mathlib.Data.List.Forall2
import Parlance.Proofs.Order

namespace Parlance

/-- Two expressions of the same form with the same literals and corresponding tokens. -/
inductive Expr.Alike (same : Token → Token → Prop) : Expr → Expr → Prop
  | literal (value : Literal) : Alike same (.literal value) (.literal value)
  | name {token token'} : same token token' → Alike same (.name token) (.name token')
  | assign {token token' value value'} : same token token' → Alike same value value' →
      Alike same (.assign token value) (.assign token' value')
  | logical {left left' operator operator' right right'} : Alike same left left' →
      same operator operator' → Alike same right right' →
      Alike same (.logical left operator right) (.logical left' operator' right')
  | binary {left left' operator operator' right right'} : Alike same left left' →
      same operator operator' → Alike same right right' →
      Alike same (.binary left operator right) (.binary left' operator' right')
  | unary {operator operator' right right'} : same operator operator' → Alike same right right' →
      Alike same (.unary operator right) (.unary operator' right')
  | call {callee callee' arguments arguments' paren paren'} : Alike same callee callee' →
      List.Forall₂ (Alike same) arguments arguments' → same paren paren' →
      Alike same (.call callee arguments paren) (.call callee' arguments' paren')

/-- Two statements of the same form with the same literals and corresponding tokens, where the
tokens of errors correspond in their own way. -/
inductive Stmt.Alike (same failed : Token → Token → Prop) : Stmt → Stmt → Prop
  | expression {value value'} : Expr.Alike same value value' →
      Alike same failed (.expression value) (.expression value')
  | print {value value'} : Expr.Alike same value value' →
      Alike same failed (.print value) (.print value')
  | var {name name' initial initial'} : same name name' →
      Option.Rel (Expr.Alike same) initial initial' →
      Alike same failed (.var name initial) (.var name' initial')
  | block {body body'} : List.Forall₂ (Alike same failed) body body' →
      Alike same failed (.block body) (.block body')
  | ifThen {condition condition' body body'} : Expr.Alike same condition condition' →
      Alike same failed body body' →
      Alike same failed (.ifThen condition body) (.ifThen condition' body')
  | ifElse {condition condition' body body' otherwise otherwise'} :
      Expr.Alike same condition condition' → Alike same failed body body' →
      Alike same failed otherwise otherwise' →
      Alike same failed (.ifElse condition body otherwise) (.ifElse condition' body' otherwise')
  | whileDo {condition condition' body body'} : Expr.Alike same condition condition' →
      Alike same failed body body' →
      Alike same failed (.whileDo condition body) (.whileDo condition' body')
  | function {name name' parameters parameters' body body'} : same name name' →
      List.Forall₂ same parameters parameters' → List.Forall₂ (Alike same failed) body body' →
      Alike same failed (.function name parameters body) (.function name' parameters' body')
  | returns {keyword keyword' value value'} : same keyword keyword' →
      Option.Rel (Expr.Alike same) value value' →
      Alike same failed (.returns keyword value) (.returns keyword' value')
  | error {token token'} : failed token token' → Alike same failed (.error token) (.error token')

/-! ### The same tokens -/

mutual

/-- An expression is alike itself if each of its tokens corresponds to itself. -/
theorem Expr.Alike.refl {same : Token → Token → Prop} (self : ∀ token, same token token) :
    ∀ expr : Expr, Alike same expr expr
  | .literal value => .literal value
  | .name token => .name (self token)
  | .assign token value => .assign (self token) (refl self value)
  | .logical left operator right => .logical (refl self left) (self operator) (refl self right)
  | .binary left operator right => .binary (refl self left) (self operator) (refl self right)
  | .unary operator right => .unary (self operator) (refl self right)
  | .call callee arguments paren => .call (refl self callee) (allRefl self arguments) (self paren)

theorem Expr.Alike.allRefl {same : Token → Token → Prop} (self : ∀ token, same token token) :
    ∀ exprs : List Expr, List.Forall₂ (Alike same) exprs exprs
  | [] => .nil
  | expr :: rest => .cons (refl self expr) (allRefl self rest)

end

theorem Expr.Alike.optionRefl {same : Token → Token → Prop} (self : ∀ token, same token token)
    (expr : Option Expr) : Option.Rel (Alike same) expr expr := by
  cases expr with
  | none => exact .none
  | some expr => exact .some (.refl self expr)

mutual

/-- A statement is alike itself if each of its tokens corresponds to itself. -/
theorem Stmt.Alike.refl {same : Token → Token → Prop} (self : ∀ token, same token token) :
    ∀ stmt : Stmt, Alike same same stmt stmt
  | .expression value => .expression (.refl self value)
  | .print value => .print (.refl self value)
  | .var name initial => .var (self name) (Expr.Alike.optionRefl self initial)
  | .block body => .block (allRefl self body)
  | .ifThen condition body => .ifThen (.refl self condition) (refl self body)
  | .ifElse condition body otherwise =>
    .ifElse (.refl self condition) (refl self body) (refl self otherwise)
  | .whileDo condition body => .whileDo (.refl self condition) (refl self body)
  | .function name _ body =>
    .function (self name) (List.forall₂_same.mpr fun token _ => self token) (allRefl self body)
  | .returns keyword value => .returns (self keyword) (Expr.Alike.optionRefl self value)
  | .error token => .error (self token)

theorem Stmt.Alike.allRefl {same : Token → Token → Prop} (self : ∀ token, same token token) :
    ∀ stmts : List Stmt, List.Forall₂ (Alike same same) stmts stmts
  | [] => .nil
  | stmt :: rest => .cons (refl self stmt) (allRefl self rest)

end

mutual

/-- Expressions that are alike with the same tokens are the same. -/
theorem Expr.Alike.eq : ∀ {expr expr' : Expr}, Alike Eq expr expr' → expr = expr'
  | _, _, .literal _ => rfl
  | _, _, .name rfl => rfl
  | _, _, .assign rfl value => congrArg _ value.eq
  | _, _, .logical left rfl right => by rw [left.eq, right.eq]
  | _, _, .binary left rfl right => by rw [left.eq, right.eq]
  | _, _, .unary rfl right => congrArg _ right.eq
  | _, _, .call callee arguments rfl => by rw [callee.eq, Expr.Alike.all_eq arguments]

theorem Expr.Alike.all_eq : ∀ {exprs exprs' : List Expr},
    List.Forall₂ (Alike Eq) exprs exprs' → exprs = exprs'
  | _, _, .nil => rfl
  | _, _, .cons first rest => by rw [first.eq, Expr.Alike.all_eq rest]

end

theorem Expr.Alike.option_eq {expr expr' : Option Expr}
    (alike : Option.Rel (Alike Eq) expr expr') : expr = expr' := by
  cases alike with
  | none => rfl
  | some alike => rw [alike.eq]

mutual

/-- Statements that are alike with the same tokens are the same. -/
theorem Stmt.Alike.eq : ∀ {stmt stmt' : Stmt}, Alike Eq Eq stmt stmt' → stmt = stmt'
  | _, _, .expression value => congrArg _ value.eq
  | _, _, .print value => congrArg _ value.eq
  | _, _, .var rfl initial => congrArg _ (Expr.Alike.option_eq initial)
  | _, _, .block body => congrArg _ (Stmt.Alike.all_eq body)
  | _, _, .ifThen condition body => by rw [condition.eq, body.eq]
  | _, _, .ifElse condition body otherwise => by rw [condition.eq, body.eq, otherwise.eq]
  | _, _, .whileDo condition body => by rw [condition.eq, body.eq]
  | _, _, .function rfl parameters body => by
    rw [List.forall₂_eq_eq_eq] at parameters
    rw [parameters, Stmt.Alike.all_eq body]
  | _, _, .returns rfl value => congrArg _ (Expr.Alike.option_eq value)
  | _, _, .error rfl => rfl

/-- Programs that are alike with the same tokens are the same. -/
theorem Stmt.Alike.all_eq : ∀ {stmts stmts' : List Stmt},
    List.Forall₂ (Alike Eq Eq) stmts stmts' → stmts = stmts'
  | _, _, .nil => rfl
  | _, _, .cons first rest => by rw [first.eq, Stmt.Alike.all_eq rest]

end

/-! ### The tokens of trees that are alike -/

variable {same : Token → Token → Prop}

mutual

theorem Expr.Alike.tokens : ∀ {expr expr' : Expr}, Alike same expr expr' →
    List.Forall₂ same expr.tokens expr'.tokens
  | _, _, .literal _ => .nil
  | _, _, .name token => .cons token .nil
  | _, _, .assign token value => .cons token value.tokens
  | _, _, .logical left operator right => List.rel_append left.tokens (.cons operator right.tokens)
  | _, _, .binary left operator right => List.rel_append left.tokens (.cons operator right.tokens)
  | _, _, .unary operator right => .cons operator right.tokens
  | _, _, .call callee arguments paren =>
    List.rel_append callee.tokens
      (List.rel_append (Expr.Alike.allTokens arguments) (.cons paren .nil))

theorem Expr.Alike.allTokens : ∀ {exprs exprs' : List Expr},
    List.Forall₂ (Alike same) exprs exprs' →
    List.Forall₂ same (Expr.allTokens exprs) (Expr.allTokens exprs')
  | _, _, .nil => .nil
  | _, _, .cons first rest => List.rel_append first.tokens (Expr.Alike.allTokens rest)

end

theorem Expr.Alike.optionTokens {expr expr' : Option Expr}
    (alike : Option.Rel (Alike same) expr expr') :
    List.Forall₂ same (Expr.optionTokens expr) (Expr.optionTokens expr') := by
  cases alike with
  | none => exact .nil
  | some alike => exact alike.tokens

mutual

theorem Stmt.Alike.tokens : ∀ {stmt stmt' : Stmt}, Alike same same stmt stmt' →
    List.Forall₂ same stmt.tokens stmt'.tokens
  | _, _, .expression value => value.tokens
  | _, _, .print value => value.tokens
  | _, _, .var name initial => .cons name (Expr.Alike.optionTokens initial)
  | _, _, .block body => Stmt.Alike.allTokens body
  | _, _, .ifThen condition body => List.rel_append condition.tokens body.tokens
  | _, _, .ifElse condition body otherwise =>
    List.rel_append condition.tokens (List.rel_append body.tokens otherwise.tokens)
  | _, _, .whileDo condition body => List.rel_append condition.tokens body.tokens
  | _, _, .function name parameters body =>
    .cons name (List.rel_append parameters (Stmt.Alike.allTokens body))
  | _, _, .returns keyword value => .cons keyword (Expr.Alike.optionTokens value)
  | _, _, .error token => .cons token .nil

/-- The tokens in programs that are alike correspond one by one. -/
theorem Stmt.Alike.allTokens : ∀ {stmts stmts' : List Stmt},
    List.Forall₂ (Alike same same) stmts stmts' →
    List.Forall₂ same (Stmt.allTokens stmts) (Stmt.allTokens stmts')
  | _, _, .nil => .nil
  | _, _, .cons first rest => List.rel_append first.tokens (Stmt.Alike.allTokens rest)

end

end Parlance
