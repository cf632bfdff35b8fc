/-
This file says what the tokens of a source carry, and what trees are made of. The kind of a token
settles which value it carries, and the kind of a mark or a reserved word also its text; a name is a
word that is not reserved. A tree that was read from such tokens has them wherever it keeps a token,
each of a kind that fits its place, and has no literals but theirs.
-/

import Parlance.Proofs.Decimals
import Parlance.Proofs.Shape

namespace Parlance

/-! ### Tokens -/

/-- A value that is no number, or a finite one. -/
def Literal.IsFinite : Literal → Prop
  | number value => value.IsFinite
  | _ => True

instance : (literal : Literal) → Decidable literal.IsFinite
  | .number value => inferInstanceAs (Decidable value.IsFinite)
  | .bool _ => isTrue trivial
  | .string _ => isTrue trivial
  | .nothing => isTrue trivial

/-- A text that is a word. -/
def IsWord (text : List Char) : Prop :=
  ∃ first rest, text = first :: rest ∧ startsWord first = true ∧
    ∀ c ∈ rest, continuesWord c = true

namespace Token

/-- A token as a source has it. -/
def Genuine (token : Token) : Prop :=
  match token.kind with
  | .eof => token.value = "EOF" ∧ token.literal = none
  | .number => ∃ number, token.literal = some (.number number)
  | .string => ∃ text, token.literal = some (.string text)
  | .identifier =>
    IsWord token.value.toList ∧ Word.ofText? token.value = none ∧ token.literal = none
  | .mark symbol => token.value = String.singleton symbol.char ∧ token.literal = none
  | .word reserved => token.value = reserved.text ∧ token.literal = reserved.literal?

/-- A token that carries no number, or a finite one. -/
def IsFinite (token : Token) : Prop :=
  ∀ literal ∈ token.literal, literal.IsFinite

instance (token : Token) : Decidable token.IsFinite :=
  inferInstanceAs (Decidable (∀ literal ∈ token.literal, literal.IsFinite))

/-- A token as a source has it, of one of several kinds. -/
structure Fits (kinds : List Kind) (token : Token) : Prop where
  kind : token.kind ∈ kinds
  genuine : token.Genuine

end Token

theorem Piece.Spells.genuine {piece : Piece} {lexeme after : List Char} {kind : Kind}
    {literal : Option Literal} (spells : piece.Spells lexeme after)
    (isToken : piece.token? lexeme = .ok (some (kind, literal))) (place : Place) :
    (place.tokenOf lexeme kind literal).Genuine := by
  cases spells with
  | blanks => cases isToken
  | remark => cases isToken
  | @word first rest _ starts continues =>
    cases isToken
    unfold Kind.ofWord
    split
    · rename_i reserved found
      refine ⟨(Word.text_of_ofText? found).symm, ?_⟩
      show (Word.ofText? (String.ofList (first :: rest))).bind Word.literal? = _
      rw [found]
      rfl
    · rename_i notReserved
      refine ⟨⟨first, rest, String.toList_ofList, starts, continues⟩, notReserved, ?_⟩
      show (Word.ofText? (String.ofList (first :: rest))).bind Word.literal? = _
      rw [notReserved]
      rfl
  | whole =>
    rw [Piece.token?] at isToken
    split at isToken <;> cases isToken
    exact ⟨_, rfl⟩
  | decimal =>
    rw [Piece.token?] at isToken
    split at isToken <;> cases isToken
    exact ⟨_, rfl⟩
  | string =>
    cases isToken
    exact ⟨_, rfl⟩
  | mark =>
    cases isToken
    exact ⟨rfl, rfl⟩

theorem Divides.genuine {place : Place} {text : List Char} {tokens : List Token}
    (divides : Divides place text tokens) : ∀ token ∈ tokens, token.Genuine := by
  induction divides with
  | ended =>
    intro token member
    rw [List.mem_singleton.mp member]
    exact ⟨rfl, rfl⟩
  | skipped _ _ _ inductionHypothesis => exact inductionHypothesis
  | token spells isToken _ inductionHypothesis =>
    exact List.forall_mem_cons.mpr ⟨spells.genuine isToken _, inductionHypothesis⟩

/-! ### Trees -/

namespace Expr

mutual

/-- An expression with tokens of the right kinds as a source has them, and with finite numbers. -/
def Genuine : Expr → Prop
  | literal value => value.IsFinite
  | name token => token.Fits [.identifier]
  | assign token value => token.Fits [.identifier] ∧ Genuine value
  | logical left operator right =>
    operator.Fits [.word .and, .word .or] ∧ Genuine left ∧ Genuine right
  | binary left operator right => operator.Fits Kind.equalities ∧ Genuine left ∧ Genuine right
  | unary operator right => operator.Fits [.word .not] ∧ Genuine right
  | call callee arguments paren =>
    paren.Fits [.mark .emDash] ∧ Genuine callee ∧ AllGenuine arguments

/-- Several expressions with tokens of the right kinds as a source has them, and with finite
numbers. -/
def AllGenuine : List Expr → Prop
  | [] => True
  | expr :: rest => Genuine expr ∧ AllGenuine rest

end

theorem allGenuine_iff (exprs : List Expr) :
    AllGenuine exprs ↔ ∀ expr ∈ exprs, expr.Genuine := by
  induction exprs with
  | nil => exact iff_of_true trivial fun _ member => absurd member List.not_mem_nil
  | cons expr exprs inductionHypothesis =>
    rw [AllGenuine, inductionHypothesis, List.forall_mem_cons]

end Expr

namespace Stmt

mutual

/-- A statement with tokens of the right kinds as a source has them, and with finite numbers. The
token of an error may be any. -/
def Genuine : Stmt → Prop
  | expression value => value.Genuine
  | print value => value.Genuine
  | var name initial => name.Fits [.identifier] ∧ ∀ expr ∈ initial, expr.Genuine
  | block body => AllGenuine body
  | ifThen condition body => condition.Genuine ∧ Genuine body
  | ifElse condition body otherwise =>
    condition.Genuine ∧ Genuine body ∧ Genuine otherwise
  | whileDo condition body => condition.Genuine ∧ Genuine body
  | function name parameters body =>
    name.Fits [.identifier] ∧ (∀ parameter ∈ parameters, parameter.Fits [.identifier]) ∧
      AllGenuine body
  | returns keyword value => keyword.Fits [.mark .ampersand] ∧ ∀ expr ∈ value, expr.Genuine
  | error _ => True

/-- Several statements with tokens of the right kinds as a source has them, and with finite
numbers. -/
def AllGenuine : List Stmt → Prop
  | [] => True
  | stmt :: rest => Genuine stmt ∧ AllGenuine rest

end

end Stmt

/-! ### What is read from a source -/

namespace Grammar

/-- Tokens as a source has them, without numbers that are not finite. -/
def FromSource (tokens : List Token) : Prop :=
  ∀ token ∈ tokens, token.Genuine ∧ token.IsFinite

namespace FromSource

variable {token : Token} {tokens tokens' : List Token}

theorem head (each : FromSource (token :: tokens)) : token.Genuine ∧ token.IsFinite :=
  each token List.mem_cons_self

theorem tail (each : FromSource (token :: tokens)) : FromSource tokens :=
  fun other member => each other (List.mem_cons_of_mem _ member)

theorem left (each : FromSource (tokens ++ tokens')) : FromSource tokens :=
  fun token member => each token (List.mem_append_left _ member)

theorem right (each : FromSource (tokens ++ tokens')) : FromSource tokens' :=
  fun token member => each token (List.mem_append_right _ member)

/-- The first token fits where its kind is asked for. -/
theorem fits (each : FromSource (token :: tokens)) {kinds : List Kind}
    (isKind : token.kind ∈ kinds) : token.Fits kinds :=
  ⟨isKind, each.head.1⟩

end FromSource

variable {leniency : Leniency} {tokens : List Token} {expr : Expr} {notes : List Note}

theorem Denotes.genuine {token : Token} (denotes : Denotes token expr) (genuine : token.Genuine)
    (finite : token.IsFinite) : expr.Genuine := by
  cases denotes with
  | no => trivial
  | yes => trivial
  | nothing => trivial
  | own _ carried => exact finite _ carried
  | text => trivial
  | numeral isNumber carried =>
    rw [Token.Genuine, isNumber, carried] at genuine
    obtain ⟨_, impossible⟩ := genuine
    cases impossible
  | name isName => exact ⟨List.mem_singleton.mpr isName, genuine⟩

theorem Listed.genuine {list : List Token} {arguments : List Expr}
    (derived : Listed Denotes tokens list arguments) (each : FromSource tokens) :
    Expr.AllGenuine arguments := by
  refine (Expr.allGenuine_iff arguments).mpr fun argument member => ?_
  obtain ⟨token, member, denotes⟩ := derived.exists_token argument member
  exact denotes.genuine (each token member).1 (each token member).2

theorem Listed.fits {list parameters : List Token}
    (derived : Listed Parameter tokens list parameters) (each : FromSource tokens) :
    ∀ parameter ∈ parameters, parameter.Fits [.identifier] := by
  intro parameter member
  obtain ⟨token, member, isParameter⟩ := derived.exists_token parameter member
  cases isParameter with
  | name isName => exact ⟨List.mem_singleton.mpr isName, (each _ member).1⟩

theorem Call.genuine (derived : Call tokens expr notes) (each : FromSource tokens) :
    expr.Genuine := by
  induction derived with
  | primary denotes => exact denotes.genuine each.head.1 each.head.2
  | call _ _ isListed isParen inductionHypothesis =>
    have inside := each.right.tail
    exact ⟨inside.right.fits (List.mem_singleton.mpr isParen), inductionHypothesis each.left,
      isListed.genuine inside.left⟩

theorem Unary.genuine (derived : Unary tokens expr notes) (each : FromSource tokens) :
    expr.Genuine := by
  induction derived with
  | call derived => exact derived.genuine each
  | not isNot _ inductionHypothesis =>
    exact ⟨each.fits (List.mem_singleton.mpr isNot), inductionHypothesis each.tail⟩

theorem Chain.genuine {operators : List Kind} {join : Expr → Token → Expr → Expr}
    {operand : List Token → Expr → List Note → Prop}
    (ofOperand : ∀ {tokens expr notes}, operand tokens expr notes → FromSource tokens →
      expr.Genuine)
    (joins : ∀ {left operator right}, left.Genuine → operator.Fits operators → right.Genuine →
      (join left operator right).Genuine)
    (derived : Chain operators join operand tokens expr notes) (each : FromSource tokens) :
    expr.Genuine := by
  induction derived with
  | operand derived => exact ofOperand derived each
  | join _ isOperator derived inductionHypothesis =>
    exact joins (inductionHypothesis each.left) (each.right.fits isOperator)
      (ofOperand derived each.right.tail)

theorem Disjunction.genuine (derived : Disjunction tokens expr notes)
    (each : FromSource tokens) : expr.Genuine := by
  have compared {left operator right} (leftGenuine : Expr.Genuine left)
      (fits : operator.Fits Kind.equalities) (rightGenuine : Expr.Genuine right) :
      (Expr.binary left operator right).Genuine :=
    ⟨fits, leftGenuine, rightGenuine⟩
  have equality {tokens expr notes} (derived : Equality tokens expr notes) :
      FromSource tokens → expr.Genuine :=
    Chain.genuine Unary.genuine compared derived
  have connected {kind} (isKind : kind ∈ [Kind.word .and, .word .or]) {left operator right}
      (leftGenuine : Expr.Genuine left) (fits : operator.Fits [kind])
      (rightGenuine : Expr.Genuine right) : (Expr.logical left operator right).Genuine := by
    refine ⟨⟨?_, fits.genuine⟩, leftGenuine, rightGenuine⟩
    rw [List.mem_singleton.mp fits.kind]
    exact isKind
  have conjunction {tokens expr notes} (derived : Conjunction tokens expr notes) :
      FromSource tokens → expr.Genuine :=
    Chain.genuine equality (connected (by decide)) derived
  exact Chain.genuine conjunction (connected (by decide)) derived each

theorem Assignment.genuine (derived : Assignment leniency tokens expr notes)
    (each : FromSource tokens) : expr.Genuine := by
  induction derived with
  | value derived => exact derived.genuine each
  | assign isName _ _ inductionHypothesis =>
    exact ⟨each.fits (List.mem_singleton.mpr isName), inductionHypothesis each.tail.tail⟩
  | dropped _ _ _ _ _ inductionHypothesis => exact inductionHypothesis each.right.tail

theorem Guard.genuine {word : Word} {condition : Expr} (isGuard : Guard word tokens condition)
    (each : FromSource tokens) : condition.Genuine := by
  cases isGuard with
  | guard _ _ denotes _ =>
    exact denotes.genuine each.tail.tail.head.1 each.tail.tail.head.2

mutual

theorem Statement.genuine : ∀ {tokens stmt notes}, Statement leniency tokens stmt notes →
    FromSource tokens → stmt.Genuine
  | _, _, _, .expression derived _, each => derived.genuine each.left
  | _, _, _, .print _ derived _, each => derived.genuine each.tail.left
  | _, _, _, .returns isKeyword _, each =>
    ⟨each.fits (List.mem_singleton.mpr isKeyword), fun _ member => by cases member⟩
  | _, _, _, .returnsValue isKeyword derived _, each =>
    ⟨each.fits (List.mem_singleton.mpr isKeyword),
      fun _ member => by cases member; exact derived.genuine each.tail.left⟩
  | _, _, _, .whileDo isGuard body, each => ⟨isGuard.genuine each.left, body.genuine each.right⟩
  | _, _, _, .ifThen isGuard body, each => ⟨isGuard.genuine each.left, body.genuine each.right⟩
  | _, _, _, .ifElse isGuard body _ _ otherwise, each =>
    ⟨isGuard.genuine each.left, body.genuine each.right.left,
      otherwise.genuine each.right.right.tail⟩
  | _, _, _, .block _ body _, each => body.allGenuine each.tail.left

theorem Declaration.genuine : ∀ {tokens stmt notes}, Declaration leniency tokens stmt notes →
    FromSource tokens → stmt.Genuine
  | _, _, _, .function _ isName _ isListed _ _ body _, each =>
    have inside := each.tail.tail.tail
    ⟨each.tail.fits (List.mem_singleton.mpr isName), isListed.fits inside.left,
      body.allGenuine inside.right.tail.tail.left⟩
  | _, _, _, .var _ isName _, each =>
    ⟨each.tail.fits (List.mem_singleton.mpr isName), fun _ member => by cases member⟩
  | _, _, _, .varValue _ isName _ derived _, each =>
    ⟨each.tail.fits (List.mem_singleton.mpr isName),
      fun _ member => by cases member; exact derived.genuine each.tail.tail.tail.left⟩
  | _, _, _, .statement derived, each => derived.genuine each
  | _, _, _, .failed _ _ _, _ => trivial

/-- Declarations that were read from tokens of a source are made of these. -/
theorem Declarations.allGenuine : ∀ {tokens stmts notes},
    Declarations leniency tokens stmts notes → FromSource tokens → Stmt.AllGenuine stmts
  | _, _, _, .nil, _ => trivial
  | _, _, _, .cons first rest, each => ⟨first.genuine each.left, rest.allGenuine each.right⟩

end

end Grammar

/-! ### Whole programs -/

theorem Pass.Slots.allGenuine {pass next : Pass} {stmts : List Stmt}
    (slots : Slots pass stmts next) (each : Grammar.FromSource pass.ahead) :
    Stmt.AllGenuine stmts := by
  induction slots with
  | nil => trivial
  | cons slot _ inductionHypothesis =>
    cases slot with
    | read derived reads =>
      rw [reads.ahead] at each
      exact ⟨derived.genuine each.left, inductionHypothesis each.right⟩
    | ended isError ended _ _ =>
      rw [isError]
      refine ⟨trivial, inductionHypothesis ?_⟩
      rw [ended]
      exact fun _ member => absurd member List.not_mem_nil

/-- A program is made of the tokens of its source. -/
theorem Program.allGenuine {tokens : List Token} (each : Grammar.FromSource tokens)
    (file : String) : Stmt.AllGenuine (ofTokens tokens file).statements := by
  refine (Pass.slots_declarations (Pass.standard_start tokens file)).allGenuine ?_
  rw [(Pass.ahead_start tokens file).1]
  exact fun token member => each token (List.takeWhile_subset _ member)

end Parlance
