/-
This file proves that the tokens in a program stand in the order of the source. A tree keeps some of
the tokens it was read from. Listed in the order of the tree they are a part of the tokens that were
read, in the same order and none of them twice, even where a target was dropped or a declaration was
given up; the end token can only stand in an error behind everything else.
-/

import Parlance.Program
import Parlance.Proofs.Soundness

namespace Parlance

/-! ### The tokens in a tree -/

namespace Expr

mutual

/-- The tokens in an expression, in the order of the source. -/
def tokens : Expr → List Token
  | literal _ => []
  | name token => [token]
  | assign token value => token :: tokens value
  | logical left operator right => tokens left ++ operator :: tokens right
  | binary left operator right => tokens left ++ operator :: tokens right
  | unary operator right => operator :: tokens right
  | call callee arguments paren => tokens callee ++ (allTokens arguments ++ [paren])

/-- The tokens in several expressions, in the order of the source. -/
def allTokens : List Expr → List Token
  | [] => []
  | expr :: rest => tokens expr ++ allTokens rest

end

theorem allTokens_eq (exprs : List Expr) : allTokens exprs = exprs.flatMap tokens := by
  induction exprs with
  | nil => rfl
  | cons expr exprs inductionHypothesis =>
    rw [allTokens, inductionHypothesis, List.flatMap_cons]

/-- The tokens in an expression that may be absent. -/
def optionTokens : Option Expr → List Token
  | none => []
  | some expr => expr.tokens

end Expr

namespace Stmt

mutual

/-- The tokens in a statement, in the order of the source. -/
def tokens : Stmt → List Token
  | expression value => value.tokens
  | print value => value.tokens
  | var name initial => name :: Expr.optionTokens initial
  | block body => allTokens body
  | ifThen condition body => condition.tokens ++ tokens body
  | ifElse condition body otherwise => condition.tokens ++ (tokens body ++ tokens otherwise)
  | whileDo condition body => condition.tokens ++ tokens body
  | function name parameters body => name :: (parameters ++ allTokens body)
  | returns keyword value => keyword :: Expr.optionTokens value
  | error token => [token]

/-- The tokens in several statements, in the order of the source. -/
def allTokens : List Stmt → List Token
  | [] => []
  | stmt :: rest => tokens stmt ++ allTokens rest

end

end Stmt

namespace Grammar

variable {leniency : Leniency} {tokens : List Token} {expr : Expr} {notes : List Note}

/-! ### Expressions -/

theorem Denotes.sublist {token : Token} (denotes : Denotes token expr) :
    expr.tokens.Sublist [token] := by
  cases denotes with
  | name _ => exact List.Sublist.refl _
  | _ => exact List.nil_sublist _

theorem Separated.sublist {α : Type} {denotes : Token → α → Prop} (view : α → List Token)
    {list : List Token} {values : List α}
    (each : ∀ token value, denotes token value → (view value).Sublist [token])
    (derived : Separated denotes tokens list values) : (values.flatMap view).Sublist tokens := by
  induction derived with
  | one denotes =>
    rw [List.flatMap_singleton]
    exact each _ _ denotes
  | more denotes _ _ inductionHypothesis =>
    rw [List.flatMap_cons]
    exact (each _ _ denotes).append (inductionHypothesis.cons _)

theorem Listed.sublist {α : Type} {denotes : Token → α → Prop} (view : α → List Token)
    {list : List Token} {values : List α}
    (each : ∀ token value, denotes token value → (view value).Sublist [token])
    (derived : Listed denotes tokens list values) : (values.flatMap view).Sublist tokens := by
  cases derived with
  | none => exact List.Sublist.refl _
  | some separated => exact separated.sublist view each

theorem Listed.sublist_parameters {list parameters : List Token}
    (derived : Listed Parameter tokens list parameters) : parameters.Sublist tokens := by
  have each (token value : Token) (isParameter : Parameter token value) :
      [value].Sublist [token] := by
    cases isParameter
    exact List.Sublist.refl _
  have sublist := derived.sublist (fun token => [token]) each
  rw [List.flatMap_singleton'] at sublist
  exact sublist

theorem Call.sublist (derived : Call tokens expr notes) : expr.tokens.Sublist tokens := by
  induction derived with
  | primary denotes => exact denotes.sublist
  | call _ _ isListed _ inductionHypothesis =>
    rw [Expr.tokens, Expr.allTokens_eq]
    have arguments := isListed.sublist Expr.tokens fun _ _ denotes => denotes.sublist
    exact inductionHypothesis.append ((arguments.append (List.Sublist.refl _)).cons _)

theorem Unary.sublist (derived : Unary tokens expr notes) : expr.tokens.Sublist tokens := by
  induction derived with
  | call derived => exact derived.sublist
  | not _ _ inductionHypothesis => exact inductionHypothesis.cons_cons _

theorem Chain.sublist {operators : List Kind} {join : Expr → Token → Expr → Expr}
    {operand : List Token → Expr → List Note → Prop}
    (joins : ∀ left operator right,
      (join left operator right).tokens = left.tokens ++ operator :: right.tokens)
    (each : ∀ {tokens expr notes}, operand tokens expr notes → expr.tokens.Sublist tokens)
    (derived : Chain operators join operand tokens expr notes) : expr.tokens.Sublist tokens := by
  induction derived with
  | operand derived => exact each derived
  | join _ _ derived inductionHypothesis =>
    rw [joins]
    exact inductionHypothesis.append ((each derived).cons_cons _)

theorem Disjunction.sublist (derived : Disjunction tokens expr notes) :
    expr.tokens.Sublist tokens := by
  refine Chain.sublist (fun _ _ _ => rfl) (Chain.sublist (fun _ _ _ => rfl) ?_) derived
  exact Chain.sublist (fun _ _ _ => rfl) Unary.sublist

theorem Assignment.sublist (derived : Assignment leniency tokens expr notes) :
    expr.tokens.Sublist tokens := by
  induction derived with
  | value derived => exact derived.sublist
  | assign _ _ _ inductionHypothesis => exact (inductionHypothesis.cons _).cons_cons _
  | dropped _ _ _ _ _ inductionHypothesis =>
    exact (inductionHypothesis.cons _).trans (List.sublist_append_right _ _)

/-! ### Statements -/

theorem Guard.sublist {word : Word} {condition : Expr} (isGuard : Guard word tokens condition) :
    condition.tokens.Sublist tokens := by
  cases isGuard with
  | guard _ _ denotes _ =>
    exact ((List.sublist_append_of_sublist_left denotes.sublist).cons _).cons _

mutual

theorem Statement.sublist : ∀ {tokens stmt notes}, Statement leniency tokens stmt notes →
    stmt.tokens.Sublist tokens
  | _, _, _, .expression derived _ => List.sublist_append_of_sublist_left derived.sublist
  | _, _, _, .print _ derived _ => (List.sublist_append_of_sublist_left derived.sublist).cons _
  | _, _, _, .returns _ _ => (List.nil_sublist _).cons_cons _
  | _, _, _, .returnsValue _ derived _ =>
    (List.sublist_append_of_sublist_left derived.sublist).cons_cons _
  | _, _, _, .whileDo isGuard body => isGuard.sublist.append body.sublist
  | _, _, _, .ifThen isGuard body => isGuard.sublist.append body.sublist
  | _, _, _, .ifElse isGuard body _ _ otherwise =>
    isGuard.sublist.append (body.sublist.append (otherwise.sublist.cons _))
  | _, _, _, .block _ body _ => (List.sublist_append_of_sublist_left body.sublist).cons _

theorem Declaration.sublist : ∀ {tokens stmt notes}, Declaration leniency tokens stmt notes →
    stmt.tokens.Sublist tokens
  | _, _, _, .function _ _ _ isListed _ _ body _ =>
    (((isListed.sublist_parameters.append (((List.sublist_append_of_sublist_left
      body.sublist).cons _).cons _)).cons _).cons_cons _).cons _
  | _, _, _, .var _ _ _ => ((List.nil_sublist _).cons_cons _).cons _
  | _, _, _, .varValue _ _ _ derived _ =>
    (((List.sublist_append_of_sublist_left derived.sublist).cons _).cons_cons _).cons _
  | _, _, _, .statement derived => derived.sublist
  | _, _, _, .failed _ member _ => List.singleton_sublist.mpr member

/-- The tokens in statements are among those that derive them, in the same order. -/
theorem Declarations.sublist : ∀ {tokens stmts notes}, Declarations leniency tokens stmts notes →
    (Stmt.allTokens stmts).Sublist tokens
  | _, _, _, .nil => List.Sublist.refl _
  | _, _, _, .cons first rest => first.sublist.append rest.sublist

end

end Grammar

/-! ### Whole programs -/

theorem Pass.sublist_declarations {pass : Pass} (standard : pass.Standard) :
    (Stmt.allTokens pass.declarations.1).Sublist (pass.ahead ++ [pass.final]) := by
  induction pass using declarations_induction with
  | ended pass ahead =>
    rw [declarations_of_nil ahead]
    exact List.nil_sublist _
  | step pass some inductionHypothesis =>
    rw [declarations_of_ne_nil some, Stmt.allTokens]
    cases slot_declaration standard with
    | read derived reads =>
      rw [reads.ahead, List.append_assoc, ← reads.final]
      exact derived.sublist.append (inductionHypothesis (standard.of_reads reads))
    | ended isError ended _ _ =>
      rw [isError, declarations_of_nil ended]
      exact List.sublist_append_right _ _

/-- The tokens up to the first end token, and this one or the one made in its place. -/
def Token.upToEof (tokens : List Token) (file : String) : List Token :=
  tokens.takeWhile (·.kind ≠ .eof) ++ [Token.firstEof tokens file]

/-- These are the tokens ahead of a pass that starts, and its end token. -/
theorem Pass.upToEof_eq (tokens : List Token) (file : String) :
    (start tokens file).ahead ++ [(start tokens file).final] = Token.upToEof tokens file := by
  obtain ⟨ahead, final⟩ := ahead_start tokens file
  rw [ahead, final]
  rfl

/-- The tokens in a program are tokens of the source up to the first end token, at indices that
increase. -/
theorem Program.exists_indices (tokens : List Token) (file : String) :
    ∃ indices : List (Fin (Token.upToEof tokens file).length),
      Stmt.allTokens (ofTokens tokens file).statements =
          indices.map (Token.upToEof tokens file).get ∧
        indices.Pairwise (· < ·) := by
  have sublist := Pass.sublist_declarations (Pass.standard_start tokens file)
  rw [Pass.upToEof_eq] at sublist
  exact List.sublist_eq_map_getElem sublist

end Parlance
