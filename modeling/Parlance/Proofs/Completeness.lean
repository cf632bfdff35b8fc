/-
This file proves that every sentence of the grammar is read as what it derives. Tokens with a
derivation in which no error stands for a declaration are read as the statement they derive, with
the reports that the derivation takes note of, provided that no `else` stands behind them that the
statement would take. So a list of tokens that derives a program is read as that program, and all
that is reported are the lists of parameters or arguments that are too long.
-/

import Mathlib.Data.List.Basic
import Parlance.Proofs.Leniency
import Parlance.Proofs.Soundness
import Parlance.Program

namespace Parlance

open Grammar

namespace Grammar

/-! ### How statements begin -/

/-- The kinds of token that a statement begins with. -/
def statementHeads : List Kind :=
  [.word .if_, .word .while_, .word .print, .word .know, .word .say, .mark .ampersand,
    .mark .colon] ++ expressionHeads

/-- The kinds of token that a declaration begins with. -/
def declarationHeads : List Kind :=
  [.word .to_, .word .let_] ++ statementHeads

theorem Guard.exists_head {word : Word} {tokens : List Token} {condition : Expr}
    (isGuard : Guard word tokens condition) :
    ∃ token rest, tokens = token :: rest ∧ token.kind = .word word := by
  cases isGuard with
  | guard isWord => exact ⟨_, _, rfl, isWord⟩

theorem Statement.exists_head {leniency : Leniency} {tokens : List Token} {stmt : Stmt}
    {notes : List Note} (derived : Statement leniency tokens stmt notes) :
    ∃ token rest, tokens = token :: rest ∧ token.kind ∈ statementHeads := by
  have guarded {word : Word} {guard : List Token} {condition : Expr} (tokens : List Token)
      (isGuard : Guard word guard condition) (isHead : .word word ∈ statementHeads) :
      ∃ token rest, guard ++ tokens = token :: rest ∧ token.kind ∈ statementHeads := by
    obtain ⟨token, rest, rfl, isWord⟩ := isGuard.exists_head
    exact ⟨token, _, rfl, by rw [isWord]; exact isHead⟩
  cases derived with
  | expression derived =>
    obtain ⟨token, rest, rfl, kind⟩ := derived.exists_head
    exact ⟨token, _, rfl, List.mem_append_right _ kind⟩
  | print isPrint =>
    refine ⟨_, _, rfl, List.mem_append_left _ ?_⟩
    exact (by decide : Kind.prints ⊆ _) isPrint
  | returns isReturn => exact ⟨_, _, rfl, by rw [isReturn]; decide⟩
  | returnsValue isReturn => exact ⟨_, _, rfl, by rw [isReturn]; decide⟩
  | whileDo isGuard => exact guarded _ isGuard (by decide)
  | ifThen isGuard => exact guarded _ isGuard (by decide)
  | ifElse isGuard => exact guarded _ isGuard (by decide)
  | block isColon => exact ⟨_, _, rfl, by rw [isColon]; decide⟩

theorem Declaration.exists_head {leniency : Leniency} (noErrors : ¬leniency.errors)
    {tokens : List Token} {stmt : Stmt} {notes : List Note}
    (derived : Declaration leniency tokens stmt notes) :
    ∃ token rest, tokens = token :: rest ∧ token.kind ∈ declarationHeads := by
  cases derived with
  | function isTo => exact ⟨_, _, rfl, by rw [isTo]; decide⟩
  | var isLet => exact ⟨_, _, rfl, by rw [isLet]; decide⟩
  | varValue isLet => exact ⟨_, _, rfl, by rw [isLet]; decide⟩
  | statement derived =>
    obtain ⟨token, rest, rfl, head⟩ := derived.exists_head
    exact ⟨token, rest, rfl, List.mem_append_right _ head⟩
  | failed errors => exact absurd errors noErrors

theorem Declarations.noElse {leniency : Leniency} (noErrors : ¬leniency.errors)
    {tokens : List Token} {stmts : List Stmt} {notes : List Note}
    (derived : Declarations leniency tokens stmts notes) :
    ∀ token ∈ tokens.head?, token.kind ≠ .word .else_ := by
  intro token isHead isElse
  cases derived with
  | nil => cases isHead
  | cons first _ =>
    obtain ⟨token, rest, rfl, head⟩ := first.exists_head noErrors
    cases isHead
    rw [isElse] at head
    exact absurd head (by decide)

end Grammar

namespace Pass

variable {pass : Pass} {token : Token} {rest : List Token}

theorem statementRule_of_head (standard : pass.Standard) (ahead : pass.ahead = token :: rest)
    {rule : Rule} (notFunction : rule ≠ .function) (notVar : rule ≠ .var)
    (head : token.kind ∈ rule.heads) : pass.statementRule = rule := by
  have found := RuleTable.statements_eq_some_iff.mpr ⟨notFunction, notVar, head⟩
  rw [statementRule, standard.statementRules, current_of_ahead ahead, found]
  rfl

theorem statementRule_of_expression (standard : pass.Standard)
    (ahead : pass.ahead = token :: rest) (head : token.kind ∈ expressionHeads) :
    pass.statementRule = .expression := by
  have none : ∀ kind ∈ expressionHeads, RuleTable.statements kind = none := by decide
  rw [statementRule, standard.statementRules, current_of_ahead ahead, none _ head]
  rfl

theorem declarationRule_of_head (standard : pass.Standard) (ahead : pass.ahead = token :: rest)
    {rule : Rule} (isDeclaration : rule = .function ∨ rule = .var)
    (head : token.kind ∈ rule.heads) : pass.declarationRule = rule := by
  have found := RuleTable.declarations_eq_some_iff.mpr ⟨isDeclaration, head⟩
  rw [declarationRule, standard.declarationRules, current_of_ahead ahead, found]
  rfl

theorem declarationRule_of_statement (standard : pass.Standard)
    (ahead : pass.ahead = token :: rest) (head : token.kind ∈ statementHeads) :
    pass.declarationRule = pass.statementRule := by
  have none : ∀ kind ∈ statementHeads, RuleTable.declarations kind = none := by decide
  rw [declarationRule, standard.declarationRules, current_of_ahead ahead, none _ head]
  rfl

end Pass

/-! ### The parts of statements -/

namespace Reading

variable {leniency : Leniency} {pass next : Pass} {tokens : List Token} {notes : List Note}
  {reported : List Diagnostic}

/-- An expression with a semicolon behind it is read up to the semicolon, and then the semicolon. -/
theorem expression_of_semicolon {value : Expr} {semicolon : Token}
    (derived : Assignment leniency tokens value notes)
    (isSemicolon : semicolon.kind = .mark .semicolon)
    (reads : pass.Reads (tokens ++ [semicolon]) (reports notes) next) :
    ∃ middle, expression pass = .ok value middle ∧
      ∀ message, expect (.mark .semicolon) message middle = .ok semicolon next := by
  obtain ⟨middle, valueReads, semicolonReads⟩ := reads.unsnoc
  have clear : middle.Clear (.word .be :: disjunctionFollow) :=
    Pass.clear_of_ahead semicolonReads.ahead (by rw [isSemicolon]; decide)
  exact ⟨middle, accepts_expression leniency derived valueReads clear,
    fun _ => expect_eq_ok_iff.mpr ⟨semicolonReads, isSemicolon⟩⟩

theorem guard_of_derives {word : Word} {condition : Expr} (opening closing : String)
    (isGuard : Guard word tokens condition) (reads : pass.Reads tokens [] next) :
    guard opening closing pass = .ok condition next := by
  cases isGuard with
  | guard _ isBefore denotes isAfter =>
    obtain ⟨_, keywordReads, reads'⟩ := reads.uncons
    obtain ⟨_, beforeReads, reads''⟩ := reads'.uncons
    obtain ⟨_, testReads, afterReads⟩ := reads''.uncons
    exact (bind_of_ok (advance_of_reads keywordReads)).trans
      ((bind_of_ok (expect_eq_ok_iff.mpr ⟨beforeReads, isBefore⟩)).trans
      ((bind_of_ok (single_primary.mpr ⟨_, testReads, denotes⟩)).trans
      (bind_of_ok (expect_eq_ok_iff.mpr ⟨afterReads, isAfter⟩))))

/-! ### Statements -/

/-- Tokens that are read as a statement, with reports, unless an `else` follows that the statement
would take. -/
def ReadsStatement (tokens : List Token) (stmt : Stmt) (reports : List Diagnostic) : Prop :=
  ∀ ⦃pass next : Pass⦄, pass.Standard → pass.Reads tokens reports next →
    (stmt.takesElse = true → next.Clear [.word .else_]) → statement pass = .ok stmt next

/-- Tokens that are read as a declaration, with reports, unless an `else` follows that it would
take. -/
def ReadsDeclaration (tokens : List Token) (stmt : Stmt) (reports : List Diagnostic) : Prop :=
  ∀ ⦃pass next : Pass⦄, pass.Standard → pass.Reads tokens reports next →
    (stmt.takesElse = true → next.Clear [.word .else_]) →
    byRule pass.declarationRule pass = .ok stmt next

/-- Tokens that are read as declarations, with reports, unless an `else` follows. -/
def ReadsDeclarations (tokens : List Token) (stmts : List Stmt) (reports : List Diagnostic) :
    Prop :=
  ∀ ⦃stop : Pass → Bool⦄ ⦃pass next : Pass⦄ (halts : Pass.Halts stop), pass.Standard →
    pass.Reads tokens reports next → next.Clear [.word .else_] →
    pass.readUntil halts = (stmts ++ (next.readUntil halts).1, (next.readUntil halts).2)

/-- The statement is read by the rule that its first token chooses. -/
theorem statement_of_head (rule : Rule) {token : Token} {rest : List Token} {stmt : Stmt}
    (standard : pass.Standard) (ahead : pass.ahead = token :: rest) (notFunction : rule ≠ .function)
    (notVar : rule ≠ .var) (head : token.kind ∈ rule.heads)
    (done : rule.read byRule Rule.progress_byRule pass = .ok stmt next) :
    statement pass = .ok stmt next := by
  show byRule pass.statementRule pass = _
  rw [Pass.statementRule_of_head standard ahead notFunction notVar head, Rule.byRule_eq]
  exact done

theorem readsStatement_expression {value : Expr} {semicolon : Token}
    (derived : Assignment leniency tokens value notes)
    (isSemicolon : semicolon.kind = .mark .semicolon) :
    ReadsStatement (tokens ++ [semicolon]) (.expression value) (reports notes) := by
  intro pass next standard reads _
  obtain ⟨middle, valueDone, closed⟩ := expression_of_semicolon derived isSemicolon reads
  obtain ⟨token, rest, rfl, head⟩ := derived.exists_head
  show byRule pass.statementRule pass = _
  rw [Pass.statementRule_of_expression standard reads.ahead head, Rule.byRule_eq]
  exact (bind_of_ok valueDone).trans (bind_of_ok (closed _))

theorem readsStatement_print {keyword : Token} {value : Expr} {semicolon : Token}
    (isPrint : keyword.kind ∈ Kind.prints) (derived : Assignment leniency tokens value notes)
    (isSemicolon : semicolon.kind = .mark .semicolon) :
    ReadsStatement (keyword :: (tokens ++ [semicolon])) (.print value) (reports notes) := by
  intro pass next standard reads _
  obtain ⟨_, keywordReads, reads'⟩ := reads.uncons
  obtain ⟨_, valueDone, closed⟩ := expression_of_semicolon derived isSemicolon reads'
  refine statement_of_head .print standard reads.ahead (by decide) (by decide) isPrint ?_
  exact (bind_of_ok (advance_of_reads keywordReads)).trans
    ((bind_of_ok valueDone).trans (bind_of_ok (closed _)))

theorem readsStatement_returns {keyword semicolon : Token}
    (isReturn : keyword.kind = .mark .ampersand) (isSemicolon : semicolon.kind = .mark .semicolon) :
    ReadsStatement [keyword, semicolon] (.returns keyword none) [] := by
  intro pass next standard reads _
  obtain ⟨middle, keywordReads, semicolonReads⟩ := reads.uncons
  have check : middle.check (.mark .semicolon) = true :=
    Pass.check_eq_true_iff.mpr ⟨semicolon, _, semicolonReads.ahead, isSemicolon⟩
  have none : expressionUnless (.mark .semicolon) middle = .ok none middle := if_pos check
  refine statement_of_head .returns standard reads.ahead (by decide) (by decide)
    (List.mem_singleton.mpr isReturn) ?_
  exact (bind_of_ok (advance_of_reads keywordReads)).trans
    ((bind_of_ok none).trans (bind_of_ok (expect_eq_ok_iff.mpr ⟨semicolonReads, isSemicolon⟩)))

theorem readsStatement_returnsValue {keyword : Token} {value : Expr} {semicolon : Token}
    (isReturn : keyword.kind = .mark .ampersand) (derived : Assignment leniency tokens value notes)
    (isSemicolon : semicolon.kind = .mark .semicolon) :
    ReadsStatement (keyword :: (tokens ++ [semicolon])) (.returns keyword (some value))
      (reports notes) := by
  intro pass next standard reads _
  obtain ⟨middle, keywordReads, reads'⟩ := reads.uncons
  obtain ⟨behind, valueDone, closed⟩ := expression_of_semicolon derived isSemicolon reads'
  obtain ⟨token, rest, rfl, head⟩ := derived.exists_head
  have check : middle.check (.mark .semicolon) = false :=
    Pass.check_eq_false reads'.ahead fun kind => by
      rw [kind] at head
      exact absurd head (by decide)
  have some : expressionUnless (.mark .semicolon) middle = .ok (some value) behind := by
    rw [expressionUnless, check, ← bind_pure_comp]
    exact bind_of_ok valueDone
  refine statement_of_head .returns standard reads.ahead (by decide) (by decide)
    (List.mem_singleton.mpr isReturn) ?_
  exact (bind_of_ok (advance_of_reads keywordReads)).trans
    ((bind_of_ok some).trans (bind_of_ok (closed _)))

theorem readsStatement_whileDo {guard : List Token} {condition : Expr} {body : Stmt}
    (isGuard : Guard .while_ guard condition) (readsBody : ReadsStatement tokens body reported) :
    ReadsStatement (guard ++ tokens) (.whileDo condition body) reported := by
  intro pass next standard reads clear
  obtain ⟨middle, guardReads, bodyReads⟩ := reads.split_left
  obtain ⟨keyword, rest, rfl, isWord⟩ := isGuard.exists_head
  refine statement_of_head .whileDo standard reads.ahead (by decide) (by decide)
    (List.mem_singleton.mpr isWord) ?_
  exact (bind_of_ok (guard_of_derives _ _ isGuard guardReads)).trans
    (bind_of_ok (readsBody (standard.of_reads guardReads) bodyReads clear))

theorem readsStatement_ifThen {guard : List Token} {condition : Expr} {body : Stmt}
    (isGuard : Guard .if_ guard condition) (readsBody : ReadsStatement tokens body reported) :
    ReadsStatement (guard ++ tokens) (.ifThen condition body) reported := by
  intro pass next standard reads clear
  obtain ⟨middle, guardReads, bodyReads⟩ := reads.split_left
  obtain ⟨keyword, rest, rfl, isWord⟩ := isGuard.exists_head
  refine statement_of_head .ifElse standard reads.ahead (by decide) (by decide)
    (List.mem_singleton.mpr isWord) ?_
  exact (bind_of_ok (guard_of_derives _ _ isGuard guardReads)).trans
    ((bind_of_ok (readsBody (standard.of_reads guardReads) bodyReads fun _ => clear rfl)).trans
    (bind_of_ok (take?_eq_none_ok_iff.mpr ⟨rfl, clear rfl⟩)))

theorem readsStatement_ifElse {guard tokens' : List Token} {condition : Expr}
    {body otherwise : Stmt} {other : Token} {reported' : List Diagnostic}
    (isGuard : Guard .if_ guard condition) (readsBody : ReadsStatement tokens body reported)
    (takesNone : body.takesElse = false) (isElse : other.kind = .word .else_)
    (readsOtherwise : ReadsStatement tokens' otherwise reported') :
    ReadsStatement (guard ++ (tokens ++ other :: tokens')) (.ifElse condition body otherwise)
      (reported ++ reported') := by
  intro pass next standard reads clear
  obtain ⟨middle, guardReads, reads'⟩ := reads.split_left
  obtain ⟨behind, bodyReads, reads''⟩ := reads'.split
  obtain ⟨last, otherReads, otherwiseReads⟩ := reads''.uncons
  obtain ⟨keyword, rest, rfl, isWord⟩ := isGuard.exists_head
  have middleStandard := standard.of_reads guardReads
  have lastStandard := (middleStandard.of_reads bodyReads).of_reads otherReads
  refine statement_of_head .ifElse standard reads.ahead (by decide) (by decide)
    (List.mem_singleton.mpr isWord) ?_
  exact (bind_of_ok (guard_of_derives _ _ isGuard guardReads)).trans
    ((bind_of_ok (readsBody middleStandard bodyReads fun takes =>
      absurd takes (by rw [takesNone]; decide))).trans
    ((bind_of_ok (take?_eq_some_ok_iff.mpr ⟨otherReads, List.mem_singleton.mpr isElse⟩)).trans
    (bind_of_ok (readsOtherwise lastStandard otherwiseReads clear))))

/-! ### Blocks and declarations -/

theorem readsDeclarations_nil : ReadsDeclarations [] [] [] := by
  intro stop pass next _ _ reads _
  rw [reads.unique (Pass.Reads.refl pass)]
  rfl

/-- Declarations that a token that is no `else` begins can follow others. -/
theorem readsDeclarations_append {tokens' : List Token} {stmts stmts' : List Stmt}
    {reported' : List Diagnostic} (noElse : ∀ token ∈ tokens'.head?, token.kind ≠ .word .else_)
    (readsFirst : ReadsDeclarations tokens stmts reported)
    (readsRest : ReadsDeclarations tokens' stmts' reported') :
    ReadsDeclarations (tokens ++ tokens') (stmts ++ stmts') (reported ++ reported') := by
  intro stop pass next halts standard reads clear
  obtain ⟨middle, firstReads, restReads⟩ := reads.split
  have between : middle.Clear [.word .else_] := by
    cases tokens' with
    | nil => exact restReads.clear_of_nil clear
    | cons token rest =>
      exact Pass.clear_of_ahead restReads.ahead fun isElse =>
        noElse token rfl (List.mem_singleton.mp isElse)
  rw [readsFirst halts standard firstReads between,
    readsRest halts (standard.of_reads firstReads) restReads clear, List.append_assoc]

theorem readsDeclarations_singleton {stmt : Stmt}
    (head : ∃ token rest, tokens = token :: rest ∧ token.kind ≠ .mark .dot)
    (read : ∀ {pass next : Pass}, pass.Standard → pass.Reads tokens reported next →
      next.Clear [.word .else_] → pass.declaration = (stmt, next)) :
    ReadsDeclarations tokens [stmt] reported := by
  intro stop pass next halts standard reads clear
  obtain ⟨token, rest, rfl, notDot⟩ := head
  rw [Pass.readUntil_of_goes halts (halts.goes reads.ahead notDot), read standard reads clear]
  rfl

theorem readsDeclarations_declaration {stmt : Stmt}
    (head : ∃ token rest, tokens = token :: rest ∧ token.kind ∈ declarationHeads)
    (readsFirst : ReadsDeclaration tokens stmt reported) :
    ReadsDeclarations tokens [stmt] reported := by
  obtain ⟨token, rest, rfl, isHead⟩ := head
  have notDot : token.kind ≠ .mark .dot := fun isDot => by
    rw [isDot] at isHead
    exact absurd isHead (by decide)
  refine readsDeclarations_singleton ⟨token, rest, rfl, notDot⟩ fun standard reads clear => ?_
  exact Pass.recover_of_ok (readsFirst standard reads fun _ => clear)

/-- Declarations with a dot behind them are read as the body of a block. -/
theorem block_of_reads {body : List Stmt} {dot : Token}
    (readsBody : ReadsDeclarations tokens body reported) (isDot : dot.kind = .mark .dot)
    (standard : pass.Standard) (reads : pass.Reads (tokens ++ [dot]) reported next) :
    block pass = .ok body next := by
  obtain ⟨middle, bodyReads, dotReads⟩ := reads.unsnoc
  have stops : middle.endsBody = true := by
    rw [Pass.endsBody, Pass.check_eq_true_iff.mpr ⟨dot, _, dotReads.ahead, isDot⟩, Bool.true_or]
  have clear : middle.Clear [.word .else_] :=
    Pass.clear_of_ahead dotReads.ahead (by rw [isDot]; decide)
  have bodyRead := readsBody Pass.halts_endsBody standard bodyReads clear
  rw [Pass.readUntil_of_stop _ stops, List.append_nil] at bodyRead
  have read : (modifyGet (Pass.readUntil Pass.halts_endsBody) : Reading (List Stmt)) pass =
      .ok body middle :=
    congrArg (fun pair : List Stmt × Pass => EStateM.Result.ok pair.1 pair.2) bodyRead
  rw [Pass.block_eq_readUntil]
  exact (bind_of_ok read).trans (bind_of_ok (expect_eq_ok_iff.mpr ⟨dotReads, isDot⟩))

theorem readsStatement_block {colon dot : Token} {body : List Stmt}
    (isColon : colon.kind = .mark .colon) (readsBody : ReadsDeclarations tokens body reported)
    (isDot : dot.kind = .mark .dot) :
    ReadsStatement (colon :: (tokens ++ [dot])) (.block body) reported := by
  intro pass next standard reads _
  obtain ⟨_, colonReads, bodyReads⟩ := reads.uncons
  refine statement_of_head .block standard reads.ahead (by decide) (by decide)
    (List.mem_singleton.mpr isColon) ?_
  exact (bind_of_ok (advance_of_reads colonReads)).trans
    (bind_of_ok (block_of_reads readsBody isDot (standard.of_reads colonReads) bodyReads))

/-- The declaration is read by the rule for functions or variables if its first token chooses it. -/
theorem declaration_of_head (rule : Rule) {token : Token} {rest : List Token} {stmt : Stmt}
    (standard : pass.Standard) (ahead : pass.ahead = token :: rest)
    (isDeclaration : rule = .function ∨ rule = .var) (head : token.kind ∈ rule.heads)
    (done : rule.read byRule Rule.progress_byRule pass = .ok stmt next) :
    byRule pass.declarationRule pass = .ok stmt next := by
  rw [Pass.declarationRule_of_head standard ahead isDeclaration head, Rule.byRule_eq]
  exact done

theorem readsDeclaration_var {keyword name semicolon : Token}
    (isLet : keyword.kind = .word .let_) (isName : name.kind = .identifier)
    (isSemicolon : semicolon.kind = .mark .semicolon) :
    ReadsDeclaration [keyword, name, semicolon] (.var name none) [] := by
  intro pass next standard reads _
  obtain ⟨_, keywordReads, reads'⟩ := reads.uncons
  obtain ⟨middle, nameReads, semicolonReads⟩ := reads'.uncons
  have clear : middle.Clear [.word .be] :=
    Pass.clear_of_ahead semicolonReads.ahead (by rw [isSemicolon]; decide)
  have none : expressionAfter (.word .be) middle = .ok none middle :=
    bind_of_ok (take?_eq_none_ok_iff.mpr ⟨rfl, clear⟩)
  refine declaration_of_head .var standard reads.ahead (.inr rfl) (List.mem_singleton.mpr isLet) ?_
  exact (bind_of_ok (advance_of_reads keywordReads)).trans
    ((bind_of_ok (expect_eq_ok_iff.mpr ⟨nameReads, isName⟩)).trans
    ((bind_of_ok none).trans
    (bind_of_ok (expect_eq_ok_iff.mpr ⟨semicolonReads, isSemicolon⟩))))

theorem readsDeclaration_varValue {keyword name be semicolon : Token} {value : Expr}
    (isLet : keyword.kind = .word .let_) (isName : name.kind = .identifier)
    (isBe : be.kind = .word .be) (derived : Assignment leniency tokens value notes)
    (isSemicolon : semicolon.kind = .mark .semicolon) :
    ReadsDeclaration (keyword :: name :: be :: (tokens ++ [semicolon])) (.var name (some value))
      (reports notes) := by
  intro pass next standard reads _
  obtain ⟨_, keywordReads, reads'⟩ := reads.uncons
  obtain ⟨middle, nameReads, reads''⟩ := reads'.uncons
  obtain ⟨_, beReads, valueReads⟩ := reads''.uncons
  obtain ⟨behind, valueDone, closed⟩ := expression_of_semicolon derived isSemicolon valueReads
  have some : expressionAfter (.word .be) middle = .ok (some value) behind :=
    (bind_of_ok (take?_eq_some_ok_iff.mpr ⟨beReads, List.mem_singleton.mpr isBe⟩)).trans
      (bind_of_ok valueDone)
  refine declaration_of_head .var standard reads.ahead (.inr rfl) (List.mem_singleton.mpr isLet) ?_
  exact (bind_of_ok (advance_of_reads keywordReads)).trans
    ((bind_of_ok (expect_eq_ok_iff.mpr ⟨nameReads, isName⟩)).trans
    ((bind_of_ok some).trans (bind_of_ok (closed _))))

theorem readsDeclaration_function {keyword name before after colon dot : Token}
    {inner parameters : List Token} {body : List Stmt} (isTo : keyword.kind = .word .to_)
    (isName : name.kind = .identifier) (isBefore : before.kind = .mark .emDash)
    (isListed : Listed Parameter inner parameters parameters) (isAfter : after.kind = .mark .emDash)
    (isColon : colon.kind = .mark .colon) (readsBody : ReadsDeclarations tokens body reported)
    (isDot : dot.kind = .mark .dot) :
    ReadsDeclaration (keyword :: name :: before :: (inner ++ after :: colon :: (tokens ++ [dot])))
      (.function name parameters body) (reports [.items "parameters" parameters] ++ reported) := by
  intro pass next standard reads _
  obtain ⟨_, keywordReads, toName⟩ := reads.uncons
  obtain ⟨_, nameReads, toDash⟩ := toName.uncons
  obtain ⟨_, beforeReads, toList⟩ := toDash.uncons
  obtain ⟨middle, listReads, toDash'⟩ := toList.split
  obtain ⟨_, afterReads, toColon⟩ := toDash'.uncons
  obtain ⟨opened, colonReads, bodyReads⟩ := toColon.uncons
  have bodyStandard := (((((standard.of_reads keywordReads).of_reads nameReads).of_reads
    beforeReads).of_reads listReads).of_reads afterReads).of_reads colonReads
  have closes : middle.check (.mark .emDash) = true :=
    Pass.check_eq_true_iff.mpr ⟨after, _, afterReads.ahead, isAfter⟩
  have noDash (token value : Token) (isParameter : Parameter token value) :
      token.kind ≠ .mark .emDash := by
    cases isParameter with
    | name kind => rw [kind]; decide
  have isHead : functionHead pass = .ok (name, parameters) opened :=
    (bind_of_ok (advance_of_reads keywordReads)).trans
      ((bind_of_ok (expect_eq_ok_iff.mpr ⟨nameReads, isName⟩)).trans
      ((bind_of_ok (expect_eq_ok_iff.mpr ⟨beforeReads, isBefore⟩)).trans
      ((bind_of_ok (listed_of_derives single_parameter noDash isListed listReads closes)).trans
      ((bind_of_ok (expect_eq_ok_iff.mpr ⟨afterReads, isAfter⟩)).trans
      (bind_of_ok (expect_eq_ok_iff.mpr ⟨colonReads, isColon⟩))))))
  refine declaration_of_head .function standard reads.ahead (.inl rfl)
    (List.mem_singleton.mpr isTo) ?_
  exact (bind_of_ok isHead).trans
    (bind_of_ok (block_of_reads readsBody isDot bodyStandard bodyReads))

theorem readsDeclaration_statement {stmt : Stmt}
    (head : ∃ token rest, tokens = token :: rest ∧ token.kind ∈ statementHeads)
    (readsStatement : ReadsStatement tokens stmt reported) :
    ReadsDeclaration tokens stmt reported := by
  intro pass next standard reads clear
  obtain ⟨token, rest, rfl, isHead⟩ := head
  rw [Pass.declarationRule_of_statement standard reads.ahead isHead]
  exact readsStatement standard reads clear

/-! ### All that the grammar derives -/

mutual

theorem readsStatement_of_derives (noErrors : ¬leniency.errors) :
    ∀ {tokens stmt notes}, Statement leniency tokens stmt notes →
      ReadsStatement tokens stmt (reports notes)
  | _, _, _, .expression derived isSemicolon => readsStatement_expression derived isSemicolon
  | _, _, _, .print isPrint derived isSemicolon => readsStatement_print isPrint derived isSemicolon
  | _, _, _, .returns isReturn isSemicolon => readsStatement_returns isReturn isSemicolon
  | _, _, _, .returnsValue isReturn derived isSemicolon =>
    readsStatement_returnsValue isReturn derived isSemicolon
  | _, _, _, .whileDo isGuard body =>
    readsStatement_whileDo isGuard (readsStatement_of_derives noErrors body)
  | _, _, _, .ifThen isGuard body =>
    readsStatement_ifThen isGuard (readsStatement_of_derives noErrors body)
  | _, _, _, .ifElse isGuard body takesNone isElse otherwise => by
    rw [reports_append]
    exact readsStatement_ifElse isGuard (readsStatement_of_derives noErrors body) takesNone isElse
      (readsStatement_of_derives noErrors otherwise)
  | _, _, _, .block isColon body isDot =>
    readsStatement_block isColon (readsDeclarations_of_derives noErrors body) isDot

theorem readsDeclaration_of_derives (noErrors : ¬leniency.errors) :
    ∀ {tokens stmt notes}, Declaration leniency tokens stmt notes →
      ReadsDeclaration tokens stmt (reports notes)
  | _, _, _, .function isTo isName isBefore isListed isAfter isColon body isDot => by
    rw [reports_cons, ← reports_singleton]
    exact readsDeclaration_function isTo isName isBefore isListed isAfter isColon
      (readsDeclarations_of_derives noErrors body) isDot
  | _, _, _, .var isLet isName isSemicolon => readsDeclaration_var isLet isName isSemicolon
  | _, _, _, .varValue isLet isName isBe derived isSemicolon =>
    readsDeclaration_varValue isLet isName isBe derived isSemicolon
  | _, _, _, .statement derived =>
    readsDeclaration_statement derived.exists_head (readsStatement_of_derives noErrors derived)
  | _, _, _, .failed errors _ _ => absurd errors noErrors

/-- What a grammar without errors derives is read as what it derives. -/
theorem readsDeclarations_of_derives (noErrors : ¬leniency.errors) :
    ∀ {tokens stmts notes}, Declarations leniency tokens stmts notes →
      ReadsDeclarations tokens stmts (reports notes)
  | _, _, _, .nil => readsDeclarations_nil
  | _, _, _, .cons first rest => by
    rw [reports_append]
    exact readsDeclarations_append (rest.noElse noErrors)
      (readsDeclarations_declaration (first.exists_head noErrors)
        (readsDeclaration_of_derives noErrors first))
      (readsDeclarations_of_derives noErrors rest)

end

end Reading

/-! ### Whole programs -/

namespace Pass

theorem ahead_start_of_noEof {tokens : List Token} (noEof : ∀ token ∈ tokens, token.kind ≠ .eof)
    (file : String) : (start tokens file).ahead = tokens := by
  have all := Token.takeWhile_append noEof []
  rw [List.append_nil, List.takeWhile_nil, List.append_nil] at all
  exact (ahead_start tokens file).1.trans all

/-- Only what stands in front of the first end token is read. -/
theorem start_append_eof {before : List Token} {eof : Token}
    (noEof : ∀ token ∈ before, token.kind ≠ .eof) (isEof : eof.kind = .eof)
    (after : List Token) (file : String) :
    (start (before ++ eof :: after) file).ahead = before ∧
      (start (before ++ eof :: after) file).final = eof := by
  obtain ⟨unseen, split⟩ := Token.exists_closed_append before after eof file
  exact ahead_of_rest split noEof isEof

theorem ahead_start_append {tokens : List Token} {eof : Token}
    (noEof : ∀ token ∈ tokens, token.kind ≠ .eof) (isEof : eof.kind = .eof) (file : String) :
    (start (tokens ++ [eof]) file).ahead = tokens :=
  (start_append_eof noEof isEof [] file).1

end Pass

/-- All that the language itself takes note of are lists of parameters and arguments. -/
theorem Grammar.exists_lists {notes : List Note} (allowed : AllAllowed .strict notes) :
    ∃ lists : List (String × List Token),
      notes = lists.map fun entry => .items entry.1 entry.2 := by
  induction notes with
  | nil => exact ⟨[], rfl⟩
  | cons note notes inductionHypothesis =>
    obtain ⟨first, rest⟩ := allAllowed_cons.mp allowed
    obtain ⟨lists, rfl⟩ := inductionHypothesis rest
    cases note with
    | items what list => exact ⟨(what, list) :: lists, rfl⟩
    | target be => exact absurd first id
    | failed reports => exact absurd first.1 id

theorem Grammar.reports_items (lists : List (String × List Token)) :
    reports (lists.map fun entry => .items entry.1 entry.2) =
      lists.filterMap fun entry => overlong? entry.1 entry.2 := by
  rw [reports, List.flatMap_map, List.filterMap_eq_flatMap_toList]
  rfl

theorem Grammar.overlong?_eq_none {what : String} {list : List Token}
    (short : list.length ≤ maxArity) : overlong? what list = none := by
  rw [overlong?, List.getElem?_eq_none short]
  rfl

/-- Tokens up to the end that are read as declarations are a whole program. -/
theorem Program.ofTokens_of_reads {input tokens : List Token} {file : String} {stmts : List Stmt}
    {reported : List Diagnostic} (ahead : (Pass.start input file).ahead = tokens)
    (readsAll : Reading.ReadsDeclarations tokens stmts reported) :
    ofTokens input file = ⟨stmts, ⟨reported⟩⟩ := by
  obtain ⟨next, reads, ended⟩ :=
    Pass.Reads.exists_of_ahead (ahead.trans (List.append_nil tokens).symm) reported
  have read : (Pass.start input file).declarations = (stmts, next) := by
    rw [Pass.declarations, readsAll Pass.halts_atEnd (Pass.standard_start input file) reads
      (Pass.clear_of_nil ended), ← Pass.declarations, Pass.declarations_of_nil ended,
      List.append_nil]
  have log : next.log = ⟨reported⟩ := Log.ext reads.log
  rw [ofTokens, read, ← log]

/-- Tokens that derive a program are read as this program. What is reported are the lists of
parameters and arguments with too many items, each at the first item too many. -/
theorem Program.ofTokens_eq_of_derives {tokens : List Token} {eof : Token} {statements : List Stmt}
    {notes : List Note} (file : String) (noEof : ∀ token ∈ tokens, token.kind ≠ .eof)
    (isEof : eof.kind = .eof) (derived : Declarations .strict tokens statements notes) :
    ∃ lists : List (String × List Token),
      notes = lists.map (fun entry => .items entry.1 entry.2) ∧
      ofTokens (tokens ++ [eof]) file =
        ⟨statements, ⟨lists.filterMap fun entry => overlong? entry.1 entry.2⟩⟩ ∧
      ((∀ entry ∈ lists, entry.2.length ≤ maxArity) →
        (ofTokens (tokens ++ [eof]) file).log.reported = []) := by
  obtain ⟨lists, rfl⟩ := exists_lists (derived.allAllowed.mono id fun errors => errors.1)
  have program := ofTokens_of_reads (Pass.ahead_start_append noEof isEof file)
    (Reading.readsDeclarations_of_derives id derived)
  rw [reports_items] at program
  refine ⟨lists, rfl, program, fun short => ?_⟩
  rw [program]
  exact List.filterMap_eq_nil_iff.mpr fun entry member => overlong?_eq_none (short entry member)

/-- An `else` belongs to the inner one of two `if`. -/
theorem Program.ofTokens_eq_of_derives_innerElse :
    ofTokens
        ([.ofWord .if_, .ofMark .emDash, .ofName "x", .ofMark .emDash,
          .ofWord .if_, .ofMark .emDash, .ofName "y", .ofMark .emDash,
          .ofWord .say, .ofName "x", .ofMark .semicolon, .ofWord .else_,
          .ofName "f", .ofMark .emDash, .ofName "x", .ofMark .emDash, .ofMark .semicolon] ++
          [.eof 1 ⟨⟨0, ""⟩, ⟨0, ""⟩⟩]) "" =
      ⟨[.ifThen (.name (.ofName "x")) (.ifElse (.name (.ofName "y"))
          (.print (.name (.ofName "x")))
          (.expression (.call (.name (.ofName "f")) [.name (.ofName "x")] (.ofMark .emDash))))],
        ⟨[]⟩⟩ := by
  have name (text : String) : Denotes (.ofName text) (.name (.ofName text)) := .name rfl
  have dash : (Token.ofMark .emDash).kind = .mark .emDash := rfl
  have semicolon : (Token.ofMark .semicolon).kind = .mark .semicolon := rfl
  have isIf : (Token.ofWord .if_).kind = .word .if_ := rfl
  have isElse : (Token.ofWord .else_).kind = .word .else_ := rfl
  have isSay : (Token.ofWord .say).kind ∈ Kind.prints := by decide
  have single {tokens : List Token} {expr : Expr} {notes : List Note}
      (call : Call tokens expr notes) : Disjunction tokens expr notes :=
    .operand (.operand (.operand (.call call)))
  have value := single (.primary (name "x"))
  have call := single (.call (.primary (name "f")) dash (.some (.one (name "x"))) dash)
  have inner : Statement .strict _ _ _ := .ifElse (.guard isIf dash (name "y") dash)
    (.print isSay (.value value) semicolon) rfl isElse (.expression (.value call) semicolon)
  have outer := Statement.ifThen (.guard isIf dash (name "x") dash) inner
  have derived := Declarations.cons (.statement outer) .nil
  have isEof : (Token.eof 1 ⟨⟨0, ""⟩, ⟨0, ""⟩⟩).kind = .eof := rfl
  obtain ⟨lists, listed, program, -⟩ := ofTokens_eq_of_derives "" (by decide) isEof derived
  obtain ⟨⟨what, list⟩, rest, rfl, isCall, isNil⟩ := List.map_eq_cons_iff.mp listed.symm
  cases isCall
  cases List.map_eq_nil_iff.mp isNil
  exact program

end Parlance
