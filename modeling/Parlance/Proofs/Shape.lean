/-
This file proves that every program is well shaped, whatever it was read from. What an operator can
have as its operands is settled by how tight the operators bind, and this shows in the tree: an
operand binds at least as tight as its operator, on the right tighter. An assignment stands only
where a whole expression stands, a condition and an argument are always a literal or a name, and a
declaration or an error stands only in a block, in a function or on its own. All of this holds even
where something was reported, as an error keeps nothing of what it stands for but one token.
-/

import Parlance.Program
import Parlance.Proofs.Soundness

namespace Parlance

/-! ### Well-shaped expressions -/

namespace Expr

/-- A literal or a name. -/
def IsPrimary : Expr → Prop
  | literal _ => True
  | name token => token.kind = .identifier
  | _ => False

/-- A call, or what a call can be made of. -/
def IsCall : Expr → Prop
  | call _ _ _ => True
  | expr => expr.IsPrimary

/-- An operand of `not` with or without it. -/
def IsUnary : Expr → Prop
  | unary _ _ => True
  | expr => expr.IsCall

/-- A comparison, or what can be compared. -/
def IsEquality : Expr → Prop
  | binary _ _ _ => True
  | expr => expr.IsUnary

/-- Operands of `and`, or one alone. -/
def IsConjunction : Expr → Prop
  | logical _ operator _ => operator.kind = .word .and
  | expr => expr.IsEquality

/-- Operands of `or`, or one alone. -/
def IsDisjunction : Expr → Prop
  | logical _ operator _ => operator.kind = .word .or ∨ operator.kind = .word .and
  | expr => expr.IsEquality

mutual

/-- Whether an expression is an assignment or has one inside it. -/
def hasAssign : Expr → Bool
  | literal _ => false
  | name _ => false
  | assign _ _ => true
  | logical left _ right => hasAssign left || hasAssign right
  | binary left _ right => hasAssign left || hasAssign right
  | unary _ right => hasAssign right
  | call callee arguments _ => hasAssign callee || anyHasAssign arguments

/-- Whether one of several expressions is an assignment or has one inside it. -/
def anyHasAssign : List Expr → Bool
  | [] => false
  | expr :: rest => hasAssign expr || anyHasAssign rest

end

/-- An expression each part of which may stand where it does, with the right kind of token for each
name, operator and em-dash. -/
def WellShaped : Expr → Prop
  | literal _ => True
  | name token => token.kind = .identifier
  | assign token value => token.kind = .identifier ∧ value.WellShaped
  | logical left operator right =>
    (operator.kind = .word .and ∧ left.IsConjunction ∧ right.IsEquality ∨
      operator.kind = .word .or ∧ left.IsDisjunction ∧ right.IsConjunction) ∧
    left.hasAssign = false ∧ right.hasAssign = false ∧ left.WellShaped ∧ right.WellShaped
  | binary left operator right =>
    operator.kind ∈ Kind.equalities ∧ left.IsEquality ∧ right.IsUnary ∧
      left.WellShaped ∧ right.WellShaped
  | unary operator right => operator.kind = .word .not ∧ right.IsUnary ∧ right.WellShaped
  | call callee arguments paren =>
    callee.IsCall ∧ callee.WellShaped ∧ (∀ argument ∈ arguments, argument.IsPrimary) ∧
      paren.kind = .mark .emDash

variable {expr : Expr}

theorem IsPrimary.isCall (isPrimary : expr.IsPrimary) : expr.IsCall := by
  cases expr <;> first | exact isPrimary | exact isPrimary.elim

theorem IsCall.isUnary (isCall : expr.IsCall) : expr.IsUnary := by
  cases expr <;> first | exact isCall | exact isCall.elim

theorem IsUnary.isEquality (isUnary : expr.IsUnary) : expr.IsEquality := by
  cases expr <;> first | exact isUnary | exact isUnary.elim

theorem IsEquality.isConjunction (isEquality : expr.IsEquality) : expr.IsConjunction := by
  cases expr <;> first | exact isEquality | exact isEquality.elim

theorem IsConjunction.isDisjunction (isConjunction : expr.IsConjunction) :
    expr.IsDisjunction := by
  cases expr <;> first | exact isConjunction | exact .inr isConjunction

theorem IsPrimary.wellShaped (isPrimary : expr.IsPrimary) : expr.WellShaped := by
  cases expr <;> first | exact isPrimary | exact isPrimary.elim

theorem IsPrimary.hasAssign (isPrimary : expr.IsPrimary) : expr.hasAssign = false := by
  cases expr <;> first | rfl | exact isPrimary.elim

theorem anyHasAssign_of_isPrimary {exprs : List Expr} (each : ∀ expr ∈ exprs, expr.IsPrimary) :
    anyHasAssign exprs = false := by
  induction exprs with
  | nil => rfl
  | cons expr exprs inductionHypothesis =>
    obtain ⟨first, others⟩ := List.forall_mem_cons.mp each
    rw [anyHasAssign, first.hasAssign, inductionHypothesis others]
    rfl

/-- A well-shaped expression without an assignment that binds as tight as is asked. -/
structure Operand (tight : Expr → Prop) (expr : Expr) : Prop where
  tight : tight expr
  wellShaped : expr.WellShaped
  noAssign : expr.hasAssign = false

theorem Operand.mono {tight loose : Expr → Prop} (operand : Operand tight expr)
    (looser : ∀ {expr}, tight expr → loose expr) : Operand loose expr :=
  ⟨looser operand.tight, operand.wellShaped, operand.noAssign⟩

end Expr

/-! ### Well-shaped statements -/

namespace Stmt

/-- A statement that can stand as a branch: no declaration, and no error in place of one. -/
def IsBranch : Stmt → Prop
  | var _ _ => False
  | function _ _ _ => False
  | error _ => False
  | _ => True

mutual

/-- A statement each part of which may stand where it does, with the right kind of token for each
name and keyword. What stands between an `if` and its `else` could not have taken the `else`. -/
def WellShaped : Stmt → Prop
  | expression value => value.WellShaped
  | print value => value.WellShaped
  | var name initial => name.kind = .identifier ∧ ∀ expr ∈ initial, expr.WellShaped
  | block body => AllWellShaped body
  | ifThen condition body => condition.IsPrimary ∧ body.IsBranch ∧ WellShaped body
  | ifElse condition body otherwise =>
    condition.IsPrimary ∧ (body.IsBranch ∧ WellShaped body ∧ body.takesElse = false) ∧
      otherwise.IsBranch ∧ WellShaped otherwise
  | whileDo condition body => condition.IsPrimary ∧ body.IsBranch ∧ WellShaped body
  | function name parameters body =>
    name.kind = .identifier ∧ (∀ parameter ∈ parameters, parameter.kind = .identifier) ∧
      AllWellShaped body
  | returns keyword value =>
    keyword.kind = .mark .ampersand ∧ ∀ expr ∈ value, expr.WellShaped
  | error _ => True

/-- Several statements that are well shaped. -/
def AllWellShaped : List Stmt → Prop
  | [] => True
  | stmt :: rest => WellShaped stmt ∧ AllWellShaped rest

end

theorem allWellShaped_iff (stmts : List Stmt) :
    AllWellShaped stmts ↔ ∀ stmt ∈ stmts, stmt.WellShaped := by
  induction stmts with
  | nil => exact iff_of_true trivial fun _ member => absurd member List.not_mem_nil
  | cons stmt stmts inductionHypothesis =>
    rw [AllWellShaped, inductionHypothesis, List.forall_mem_cons]

end Stmt

/-! ### What has a derivation is well shaped -/

namespace Grammar

open Parlance.Expr

variable {leniency : Leniency} {tokens : List Token} {expr : Expr} {notes : List Note}

theorem Denotes.isPrimary {token : Token} (denotes : Denotes token expr) : expr.IsPrimary := by
  cases denotes with
  | name isName => exact isName
  | _ => trivial

/-- Each value of a list is what one of its tokens stands for. -/
theorem Separated.exists_token {α : Type} {denotes : Token → α → Prop} {list : List Token}
    {values : List α} (derived : Separated denotes tokens list values) :
    ∀ value ∈ values, ∃ token ∈ tokens, denotes token value := by
  induction derived with
  | one isItem =>
    intro value member
    rw [List.mem_singleton.mp member]
    exact ⟨_, List.mem_cons_self, isItem⟩
  | more isItem _ _ inductionHypothesis =>
    refine List.forall_mem_cons.mpr ⟨⟨_, List.mem_cons_self, isItem⟩, fun value member => ?_⟩
    obtain ⟨token, member, isItem⟩ := inductionHypothesis value member
    exact ⟨token, List.mem_cons_of_mem _ (List.mem_cons_of_mem _ member), isItem⟩

theorem Listed.exists_token {α : Type} {denotes : Token → α → Prop} {list : List Token}
    {values : List α} (derived : Listed denotes tokens list values) :
    ∀ value ∈ values, ∃ token ∈ tokens, denotes token value := by
  cases derived with
  | none => exact fun _ member => absurd member List.not_mem_nil
  | some separated => exact separated.exists_token

theorem Listed.isPrimary {list : List Token} {arguments : List Expr}
    (derived : Listed Denotes tokens list arguments) :
    ∀ argument ∈ arguments, argument.IsPrimary := by
  intro argument member
  obtain ⟨token, -, denotes⟩ := derived.exists_token argument member
  exact denotes.isPrimary

theorem Call.operand (derived : Call tokens expr notes) : Operand IsCall expr := by
  induction derived with
  | primary denotes =>
    have isPrimary := denotes.isPrimary
    exact ⟨isPrimary.isCall, isPrimary.wellShaped, isPrimary.hasAssign⟩
  | call _ _ isListed isParen inductionHypothesis =>
    obtain ⟨isCall, wellShaped, noAssign⟩ := inductionHypothesis
    refine ⟨trivial, ⟨isCall, wellShaped, isListed.isPrimary, isParen⟩, ?_⟩
    rw [hasAssign, noAssign, anyHasAssign_of_isPrimary isListed.isPrimary]
    rfl

theorem Unary.operand (derived : Unary tokens expr notes) : Operand IsUnary expr := by
  induction derived with
  | call derived => exact derived.operand.mono IsCall.isUnary
  | not isNot _ inductionHypothesis =>
    obtain ⟨isUnary, wellShaped, noAssign⟩ := inductionHypothesis
    exact ⟨trivial, ⟨isNot, isUnary, wellShaped⟩, noAssign⟩

/-- What a chain makes of its operands binds as tight as is asked, if each of its joints does. -/
theorem Chain.operand_of_joins {operators : List Kind} {join : Expr → Token → Expr → Expr}
    {operand : List Token → Expr → List Note → Prop} {tight loose : Expr → Prop}
    (each : ∀ {tokens expr notes}, operand tokens expr notes → Operand tight expr)
    (looser : ∀ {expr}, tight expr → loose expr)
    (joins : ∀ {left operator right}, Operand loose left → operator.kind ∈ operators →
      Operand tight right → Operand loose (join left operator right))
    (derived : Chain operators join operand tokens expr notes) : Operand loose expr := by
  induction derived with
  | operand derived => exact (each derived).mono looser
  | join _ isOperator derived inductionHypothesis =>
    exact joins inductionHypothesis isOperator (each derived)

theorem Equality.operand (derived : Equality tokens expr notes) : Operand IsEquality expr := by
  refine Chain.operand_of_joins Unary.operand IsUnary.isEquality ?_ derived
  rintro left operator right ⟨isEquality, leftShaped, leftNone⟩ isOperator
    ⟨isUnary, rightShaped, rightNone⟩
  refine ⟨trivial, ⟨isOperator, isEquality, isUnary, leftShaped, rightShaped⟩, ?_⟩
  rw [hasAssign, leftNone, rightNone]
  rfl

theorem Conjunction.operand (derived : Conjunction tokens expr notes) :
    Operand IsConjunction expr := by
  refine Chain.operand_of_joins Equality.operand IsEquality.isConjunction ?_ derived
  rintro left operator right ⟨isConjunction, leftShaped, leftNone⟩ isOperator
    ⟨isEquality, rightShaped, rightNone⟩
  have isAnd := List.mem_singleton.mp isOperator
  refine ⟨isAnd, ⟨.inl ⟨isAnd, isConjunction, isEquality⟩, leftNone, rightNone, leftShaped,
    rightShaped⟩, ?_⟩
  rw [hasAssign, leftNone, rightNone]
  rfl

theorem Disjunction.operand (derived : Disjunction tokens expr notes) :
    Operand IsDisjunction expr := by
  refine Chain.operand_of_joins Conjunction.operand IsConjunction.isDisjunction ?_ derived
  rintro left operator right ⟨isDisjunction, leftShaped, leftNone⟩ isOperator
    ⟨isConjunction, rightShaped, rightNone⟩
  have isOr := List.mem_singleton.mp isOperator
  refine ⟨.inl isOr, ⟨.inr ⟨isOr, isDisjunction, isConjunction⟩, leftNone, rightNone, leftShaped,
    rightShaped⟩, ?_⟩
  rw [hasAssign, leftNone, rightNone]
  rfl

theorem Assignment.wellShaped (derived : Assignment leniency tokens expr notes) :
    expr.WellShaped := by
  induction derived with
  | value derived => exact derived.operand.wellShaped
  | assign isName _ _ inductionHypothesis => exact ⟨isName, inductionHypothesis⟩
  | dropped _ _ _ _ _ inductionHypothesis => exact inductionHypothesis

theorem Guard.isPrimary {word : Word} {condition : Expr} (isGuard : Guard word tokens condition) :
    condition.IsPrimary := by
  cases isGuard with
  | guard _ _ denotes _ => exact denotes.isPrimary

theorem Statement.isBranch {stmt : Stmt} (derived : Statement leniency tokens stmt notes) :
    stmt.IsBranch := by
  cases derived <;> trivial

theorem Listed.isIdentifier {list parameters : List Token}
    (derived : Listed Parameter tokens list parameters) :
    ∀ parameter ∈ parameters, parameter.kind = .identifier := by
  intro parameter member
  obtain ⟨token, -, isParameter⟩ := derived.exists_token parameter member
  cases isParameter with
  | name isName => exact isName

mutual

theorem Statement.wellShaped : ∀ {tokens stmt notes}, Statement leniency tokens stmt notes →
    stmt.WellShaped
  | _, _, _, .expression derived _ => derived.wellShaped
  | _, _, _, .print _ derived _ => derived.wellShaped
  | _, _, _, .returns isKeyword _ => ⟨isKeyword, fun _ member => by cases member⟩
  | _, _, _, .returnsValue isKeyword derived _ =>
    ⟨isKeyword, fun value member => by cases member; exact derived.wellShaped⟩
  | _, _, _, .whileDo isGuard body => ⟨isGuard.isPrimary, body.isBranch, body.wellShaped⟩
  | _, _, _, .ifThen isGuard body => ⟨isGuard.isPrimary, body.isBranch, body.wellShaped⟩
  | _, _, _, .ifElse isGuard body takesNone _ otherwise =>
    ⟨isGuard.isPrimary, ⟨body.isBranch, body.wellShaped, takesNone⟩, otherwise.isBranch,
      otherwise.wellShaped⟩
  | _, _, _, .block _ body _ => body.allWellShaped

theorem Declaration.wellShaped : ∀ {tokens stmt notes}, Declaration leniency tokens stmt notes →
    stmt.WellShaped
  | _, _, _, .function _ isName _ isListed _ _ body _ =>
    ⟨isName, isListed.isIdentifier, body.allWellShaped⟩
  | _, _, _, .var _ isName _ => ⟨isName, fun _ member => by cases member⟩
  | _, _, _, .varValue _ isName _ derived _ =>
    ⟨isName, fun value member => by cases member; exact derived.wellShaped⟩
  | _, _, _, .statement derived => derived.wellShaped
  | _, _, _, .failed _ _ _ => trivial

/-- Declarations that have a derivation, in any of the grammars, are well shaped. -/
theorem Declarations.allWellShaped : ∀ {tokens stmts notes},
    Declarations leniency tokens stmts notes → Stmt.AllWellShaped stmts
  | _, _, _, .nil => trivial
  | _, _, _, .cons first rest => ⟨first.wellShaped, rest.allWellShaped⟩

end

end Grammar

/-! ### Whole programs -/

theorem Pass.Slot.wellShaped {pass next : Pass} {stmt : Stmt} (slot : Slot pass stmt next) :
    stmt.WellShaped := by
  cases slot with
  | read derived _ => exact derived.wellShaped
  | ended isError _ _ _ =>
    rw [isError]
    trivial

theorem Pass.Slots.wellShaped {pass next : Pass} {stmts : List Stmt}
    (slots : Slots pass stmts next) : Stmt.AllWellShaped stmts := by
  induction slots with
  | nil => trivial
  | cons slot _ inductionHypothesis => exact ⟨slot.wellShaped, inductionHypothesis⟩

/-- Every statement of a program is well shaped, whatever tokens it was read from and whatever was
reported of it. -/
theorem Program.forall_wellShaped (tokens : List Token) (file : String) :
    ∀ stmt ∈ (ofTokens tokens file).statements, stmt.WellShaped := by
  rw [← Stmt.allWellShaped_iff]
  exact (Pass.slots_declarations (Pass.standard_start tokens file)).wellShaped

/-- A choice whose first branch calls a function, in front of a variable without a name. -/
theorem Program.forall_wellShaped_choice :
    let tokens := [.ofWord .if_, .ofMark .emDash, .ofName "x", .ofMark .emDash, .ofWord .print,
      .ofWord .not, .ofName "f", .ofMark .emDash, .ofMark .emDash, .ofMark .semicolon,
      .ofWord .else_, .ofMark .ampersand, .ofMark .semicolon, .ofWord .let_,
      Token.bare .eof "EOF"]
    (ofTokens tokens "").statements.map Stmt.text =
        ["(if x (print (not (call f))) (return))", "(error \"EOF\")"] ∧
      ∃ stmt ∈ (ofTokens tokens "").statements,
        stmt.text = "(if x (print (not (call f))) (return))" ∧ stmt.WellShaped := by
  intro tokens
  have texts : (ofTokens tokens "").statements.map Stmt.text =
      ["(if x (print (not (call f))) (return))", "(error \"EOF\")"] := by
    decide +kernel
  obtain ⟨stmt, rest, split, text, -⟩ := List.map_eq_cons_iff.mp texts
  have member : stmt ∈ (ofTokens tokens "").statements := by
    rw [split]
    exact List.mem_cons_self
  exact ⟨texts, stmt, member, text, forall_wellShaped tokens "" stmt member⟩

end Parlance
