/-
This file proves that statements and declarations are read by the grammar, with the tables that a
pass starts with. A statement that is read has a derivation from the tokens that were read, in which
errors stand for the declarations inside it that were given up; and a statement that could take an
`else` is not followed by one. A declaration always has such a derivation, unless it was given up at
the end of the source, and so do all declarations of a source in which nothing fatal is reported.
-/

import Parlance.Proofs.Expression

namespace Parlance

open Grammar

namespace Pass

/-- A pass with the tables it starts with. -/
structure Standard (pass : Pass) : Prop where
  declarationRules : pass.declarationRules = .declarations
  statementRules : pass.statementRules = .statements

theorem Standard.of_reads {pass next : Pass} {tokens : List Token} {reports : List Diagnostic}
    (standard : pass.Standard) (reads : pass.Reads tokens reports next) : next.Standard where
  declarationRules := reads.declarationRules.trans standard.declarationRules
  statementRules := reads.statementRules.trans standard.statementRules

theorem standard_start (tokens : List Token) (file : String) : (start tokens file).Standard :=
  ⟨rfl, rfl⟩

end Pass

/-! ### Which rule reads what -/

/-- The kinds of token that a rule reads first, if the tables choose it by them. -/
def Rule.heads : Rule → List Kind
  | function => [.word .to_]
  | var => [.word .let_]
  | ifElse => [.word .if_]
  | print => Kind.prints
  | returns => [.mark .ampersand]
  | whileDo => [.word .while_]
  | block => [.mark .colon]
  | expression => []

theorem RuleTable.declarations_eq_some_iff {kind : Kind} {rule : Rule} :
    declarations kind = some rule ↔ (rule = .function ∨ rule = .var) ∧ kind ∈ rule.heads := by
  constructor
  · intro found
    unfold declarations at found
    split at found <;> cases found <;> simp [Rule.heads]
  · rintro ⟨rfl | rfl, head⟩ <;> rw [List.mem_singleton.mp head] <;> rfl

theorem RuleTable.statements_eq_some_iff {kind : Kind} {rule : Rule} :
    statements kind = some rule ↔ rule ≠ .function ∧ rule ≠ .var ∧ kind ∈ rule.heads := by
  constructor
  · intro found
    unfold statements at found
    split at found <;> cases found <;> simp [Rule.heads, Kind.prints]
  · rintro ⟨notFunction, notVar, head⟩
    cases rule with
    | function => exact absurd rfl notFunction
    | var => exact absurd rfl notVar
    | print =>
      simp only [Rule.heads, Kind.prints, List.mem_cons, List.not_mem_nil, or_false] at head
      rcases head with rfl | rfl | rfl <;> rfl
    | expression => exact absurd head List.not_mem_nil
    | _ => rw [List.mem_singleton.mp head]; rfl

namespace Pass

variable {pass : Pass}

/-- A rule is chosen by the token that stands next, unless it is the rule for expressions. -/
theorem exists_head_of_statementRule (standard : pass.Standard)
    (other : pass.statementRule ≠ .expression) :
    pass.statementRule ≠ .function ∧ pass.statementRule ≠ .var ∧
      ∃ token rest, pass.ahead = token :: rest ∧ token.kind ∈ pass.statementRule.heads := by
  unfold statementRule at other ⊢
  rw [standard.statementRules] at other ⊢
  cases found : RuleTable.statements pass.current.kind with
  | none => rw [found] at other; exact absurd rfl other
  | some rule =>
    obtain ⟨notFunction, notVar, head⟩ := RuleTable.statements_eq_some_iff.mp found
    refine ⟨notFunction, notVar, ?_⟩
    cases ahead : pass.ahead with
    | nil =>
      rw [kind_current_of_nil ahead] at found
      cases found
    | cons token rest =>
      rw [current_of_ahead ahead] at head
      exact ⟨token, rest, rfl, head⟩

/-- A declaration is read by the rule for a statement, or by the rule for a function or variable
that the token chooses that stands next. -/
theorem declarationRule_cases (standard : pass.Standard) :
    pass.declarationRule = pass.statementRule ∨
      ((pass.declarationRule = .function ∨ pass.declarationRule = .var) ∧
        ∃ token rest, pass.ahead = token :: rest ∧ token.kind ∈ pass.declarationRule.heads) := by
  unfold declarationRule
  rw [standard.declarationRules]
  cases found : RuleTable.declarations pass.current.kind with
  | none => exact .inl rfl
  | some rule =>
    obtain ⟨isDeclaration, head⟩ := RuleTable.declarations_eq_some_iff.mp found
    refine .inr ⟨isDeclaration, ?_⟩
    cases ahead : pass.ahead with
    | nil =>
      rw [kind_current_of_nil ahead] at found
      cases found
    | cons token rest =>
      rw [current_of_ahead ahead] at head
      exact ⟨token, rest, rfl, head⟩

/-! ### What is read has a derivation -/

/-- What one declaration makes of the tokens from one pass to another: a statement derived from
them, or an error at the end token when the source ended too early. -/
inductive Slot (pass : Pass) (stmt : Stmt) (next : Pass) : Prop
  | read {tokens : List Token} {notes : List Note} : Declaration .full tokens stmt notes →
      pass.Reads tokens (reports notes) next → Slot pass stmt next
  | ended {tokens : List Token} {reports : List Diagnostic} {fault : Fault} :
      stmt = .error pass.final → next.ahead = [] → fault.cause.fatal = true →
      pass.Reads tokens (reports ++ [⟨pass.final, fault⟩]) next → Slot pass stmt next

/-- Declarations one after another. -/
inductive Slots : Pass → List Stmt → Pass → Prop
  | nil {pass : Pass} : Slots pass [] pass
  | cons {pass middle next : Pass} {stmt : Stmt} {rest : List Stmt} : Slot pass stmt middle →
      Slots middle rest next → Slots pass (stmt :: rest) next

/-- A declaration that fails before the end is given up for the token where it stopped. -/
theorem slot_recover {statement : Reading Stmt} (forward : statement.Forward fun _ => True)
    (sound : ∀ {stmt next}, statement pass = .ok stmt next → ∃ tokens notes,
      Declaration .full tokens stmt notes ∧ pass.Reads tokens (reports notes) next) :
    Slot pass (recover statement pass).1 (recover statement pass).2 := by
  cases outcome : statement pass with
  | ok stmt next =>
    obtain ⟨tokens, notes, derived, reads⟩ := sound outcome
    rw [recover_of_ok outcome]
    exact .read derived reads
  | error fault middle =>
    obtain ⟨⟨tokens, reports, reads, -⟩, cause, fatal, same⟩ := forward.failed outcome
    have isFatal : fault.cause.fatal = true := by rw [same]; exact fatal
    have reported := reads_reportFault middle middle.current fault
    rw [recover_of_error outcome]
    cases ahead : middle.ahead with
    | nil =>
      have current : middle.current = pass.final := (current_of_nil ahead).trans reads.final
      have stays := synchronize_of_nil (reported.ahead.symm.trans ahead)
      have total := (reads.trans reported).cast (List.append_nil _) rfl
      rw [stays]
      rw [current] at total ⊢
      exact .ended rfl (reported.ahead.symm.trans ahead) isFatal total
    | cons token rest =>
      have current : middle.current = token := current_of_ahead ahead
      obtain ⟨skipped, skips⟩ := reads_synchronize (reported.ahead.symm.trans ahead)
      rw [current] at reported skips ⊢
      have derived : Declaration .full (tokens ++ token :: skipped) (.error token)
          [.failed (reports ++ [⟨token, fault⟩])] :=
        .failed trivial (List.mem_append_right tokens List.mem_cons_self) isFatal
      refine .read derived ((reads.trans (reported.trans skips)).cast rfl ?_)
      rw [List.append_nil, reports_singleton]
      rfl

theorem Slot.exists_reads {stmt : Stmt} {next : Pass} (slot : Slot pass stmt next) :
    ∃ tokens reports, pass.Reads tokens reports next := by
  cases slot with
  | read _ reads => exact ⟨_, _, reads⟩
  | ended _ _ _ reads => exact ⟨_, _, reads⟩

theorem Slots.exists_reads {stmts : List Stmt} {next : Pass} (slots : Slots pass stmts next) :
    ∃ tokens reports, pass.Reads tokens reports next := by
  induction slots with
  | nil => exact ⟨[], [], Reads.refl _⟩
  | cons slot _ inductionHypothesis =>
    obtain ⟨tokens, reports, reads⟩ := slot.exists_reads
    obtain ⟨tokens', reports', reads'⟩ := inductionHypothesis
    exact ⟨_, _, reads.trans reads'⟩

/-- Declarations that did not reach the end have a derivation. -/
theorem Slots.declarations {next : Pass} {stmts : List Stmt} (slots : Slots pass stmts next)
    (left : next.ahead ≠ []) :
    ∃ tokens notes, Declarations .full tokens stmts notes ∧
      pass.Reads tokens (reports notes) next := by
  induction slots with
  | nil => exact ⟨[], [], .nil, Reads.refl _⟩
  | cons slot _ inductionHypothesis =>
    obtain ⟨tokens', notes', derived', reads'⟩ := inductionHypothesis left
    cases slot with
    | read derived reads =>
      refine ⟨_, _, .cons derived derived', ?_⟩
      rw [reports_append]
      exact reads.trans reads'
    | ended _ ahead =>
      rw [reads'.ahead] at ahead
      exact absurd (List.append_eq_nil_iff.mp ahead).2 left

theorem slots_declarationsUntil {stop : Pass → Bool} {declaration : Pass → Stmt × Pass}
    (gains : ∀ pass, stop pass = false → (declaration pass).2.left < pass.left)
    (slot : ∀ pass : Pass, pass.Standard → Slot pass (declaration pass).1 (declaration pass).2)
    (standard : pass.Standard) :
    Slots pass (declarationsUntil stop declaration gains pass).1
      (declarationsUntil stop declaration gains pass).2 := by
  fun_induction declarationsUntil stop declaration gains pass with
  | case1 => exact .nil
  | case2 pass _ first rest inductionHypothesis =>
    obtain ⟨tokens, reports, reads⟩ := (slot pass standard).exists_reads
    exact .cons (slot pass standard) (inductionHypothesis (standard.of_reads reads))

end Pass

namespace Reading

/-- What is read from one pass to another derives a statement, and no `else` follows that the
statement would take. -/
def DerivesStatement (pass : Pass) (stmt : Stmt) (next : Pass) : Prop :=
  ∃ tokens notes, Statement .full tokens stmt notes ∧ pass.Reads tokens (reports notes) next ∧
    (stmt.takesElse = true → next.Clear [.word .else_])

/-- What is read from one pass to another derives a declaration. -/
def DerivesDeclaration (pass : Pass) (stmt : Stmt) (next : Pass) : Prop :=
  ∃ tokens notes, Declaration .full tokens stmt notes ∧ pass.Reads tokens (reports notes) next

/-- A way to run rules whose statements have a derivation. -/
structure Sound (run : Rule → Reading Stmt) : Prop where
  progress : ∀ rule, (run rule).Progress fun _ => True
  statement : ∀ {pass stmt next}, pass.Standard → statementBy run pass = .ok stmt next →
    DerivesStatement pass stmt next
  declaration : ∀ {pass stmt next}, pass.Standard → run pass.declarationRule pass = .ok stmt next →
    DerivesDeclaration pass stmt next

variable {run : Rule → Reading Stmt} {progress : ∀ rule, (run rule).Progress fun _ => True}
  {pass next : Pass} {stmt : Stmt} {token : Token} {rest : List Token}

theorem declarations_of_blockBy (sound : Sound run) (standard : pass.Standard)
    {body : List Stmt} (done : blockBy run progress pass = .ok body next) :
    ∃ tokens dot notes, Declarations .full tokens body notes ∧ dot.kind = .mark .dot ∧
      pass.Reads (tokens ++ [dot]) (reports notes) next := by
  obtain ⟨body', middle, read, closes⟩ := bind_eq_ok done
  obtain ⟨dot, last, closed, finished⟩ := bind_eq_ok closes
  obtain ⟨rfl, rfl⟩ := pure_eq_ok finished
  obtain ⟨dotReads, isDot⟩ := expect_eq_ok_iff.mp closed
  obtain ⟨rfl, rfl⟩ := modifyGet_eq_ok read
  have slots := Pass.slots_declarationsUntil (left_lt_in_body progress)
    (fun pass standard => Pass.slot_recover (progress _).toForward (sound.declaration standard))
    standard
  have left := fun ahead => List.cons_ne_nil dot last.ahead (dotReads.ahead.symm.trans ahead)
  obtain ⟨tokens, notes, derived, reads⟩ := slots.declarations left
  exact ⟨tokens, dot, notes, derived, isDot, (reads.trans dotReads).cast rfl (List.append_nil _)⟩

theorem guard_of_reads {word : Word} {opening closing : String} {condition : Expr}
    (ahead : pass.ahead = token :: rest) (isWord : token.kind = .word word)
    (done : guard opening closing pass = .ok condition next) :
    ∃ tokens, Guard word tokens condition ∧ pass.Reads tokens [] next := by
  obtain ⟨_, _, advanced, toDash⟩ := bind_eq_ok done
  obtain ⟨before, _, opened, toTest⟩ := bind_eq_ok toDash
  obtain ⟨test, _, tested, toDash'⟩ := bind_eq_ok toTest
  obtain ⟨after, _, closed, finished⟩ := bind_eq_ok toDash'
  obtain ⟨rfl, rfl⟩ := pure_eq_ok finished
  obtain ⟨-, keywordReads⟩ := reads_of_advance ahead advanced
  obtain ⟨beforeReads, isBefore⟩ := expect_eq_ok_iff.mp opened
  obtain ⟨_, testReads, denotes⟩ := single_primary.mp tested
  obtain ⟨afterReads, isAfter⟩ := expect_eq_ok_iff.mp closed
  exact ⟨_, .guard isWord isBefore denotes isAfter,
    keywordReads.trans (beforeReads.trans (testReads.trans afterReads))⟩

theorem expressionUnless_eq_ok {kind : Kind} {value : Option Expr}
    (done : expressionUnless kind pass = .ok value next) :
    (value = none ∧ next = pass) ∨ ∃ expr, value = some expr ∧ expression pass = .ok expr next := by
  unfold expressionUnless at done
  split at done
  · cases done
    exact .inl ⟨rfl, rfl⟩
  · rw [← bind_pure_comp] at done
    obtain ⟨expr, middle, read, finished⟩ := bind_eq_ok done
    obtain ⟨rfl, rfl⟩ := pure_eq_ok finished
    exact .inr ⟨expr, rfl, read⟩

theorem expressionAfter_eq_ok {kind : Kind} {value : Option Expr}
    (done : expressionAfter kind pass = .ok value next) :
    (value = none ∧ next = pass) ∨
      ∃ token middle expr, value = some expr ∧ token.kind = kind ∧
        pass.Reads [token] [] middle ∧ expression middle = .ok expr next := by
  obtain ⟨found, middle, taken, rest⟩ := bind_eq_ok done
  cases found with
  | none =>
    obtain ⟨rfl, -⟩ := take?_eq_none_ok_iff.mp taken
    obtain ⟨rfl, rfl⟩ := pure_eq_ok rest
    exact .inl ⟨rfl, rfl⟩
  | some token =>
    obtain ⟨reads, isKind⟩ := take?_eq_some_ok_iff.mp taken
    obtain ⟨expr, last, read, finished⟩ := bind_eq_ok rest
    obtain ⟨rfl, rfl⟩ := pure_eq_ok finished
    exact .inr ⟨token, middle, expr, rfl, List.mem_singleton.mp isKind, reads, read⟩

/-- An expression and the semicolon behind it derive a value. -/
theorem value_of_semicolon {middle : Pass} {value : Expr} {message : String} {semicolon : Token}
    (valueDone : expression pass = .ok value middle)
    (closed : expect (.mark .semicolon) message middle = .ok semicolon next) :
    ∃ tokens notes, Assignment .full tokens value notes ∧ semicolon.kind = .mark .semicolon ∧
      pass.Reads (tokens ++ [semicolon]) (reports notes) next := by
  obtain ⟨tokens, notes, derived, reads⟩ := derives_expression valueDone
  obtain ⟨semicolonReads, isSemicolon⟩ := expect_eq_ok_iff.mp closed
  exact ⟨tokens, notes, derived, isSemicolon,
    (reads.trans semicolonReads).cast rfl (List.append_nil _)⟩

/-! ### The rules for statements -/

theorem derivesStatement_ifElse (sound : Sound run) (standard : pass.Standard)
    (ahead : pass.ahead = token :: rest) (isIf : token.kind = .word .if_)
    (done : Rule.ifElse.read run progress pass = .ok stmt next) :
    DerivesStatement pass stmt next := by
  obtain ⟨condition, inside, guarded, toBody⟩ := bind_eq_ok done
  obtain ⟨guard, isGuard, guardReads⟩ := guard_of_reads ahead isIf guarded
  obtain ⟨body, behind, bodyDone, toElse⟩ := bind_eq_ok toBody
  have insideStandard := standard.of_reads guardReads
  obtain ⟨tokens, notes, derived, reads, taker⟩ := sound.statement insideStandard bodyDone
  obtain ⟨other, last, taken, toOtherwise⟩ := bind_eq_ok toElse
  cases other with
  | none =>
    obtain ⟨rfl, clear⟩ := take?_eq_none_ok_iff.mp taken
    obtain ⟨rfl, rfl⟩ := pure_eq_ok toOtherwise
    exact ⟨_, _, .ifThen isGuard derived, guardReads.trans reads, fun _ => clear⟩
  | some other =>
    obtain ⟨otherReads, isElse⟩ := take?_eq_some_ok_iff.mp taken
    obtain ⟨otherwise, _, otherwiseDone, finished⟩ := bind_eq_ok toOtherwise
    obtain ⟨rfl, rfl⟩ := pure_eq_ok finished
    have lastStandard := (insideStandard.of_reads reads).of_reads otherReads
    obtain ⟨tokens', notes', derived', reads', taker'⟩ :=
      sound.statement lastStandard otherwiseDone
    have takesNone : body.takesElse = false := by
      rw [Bool.eq_false_iff]
      intro takes
      have head : other ∈ behind.ahead.head? := by rw [otherReads.ahead]; rfl
      exact taker takes other head isElse
    refine ⟨_, _, .ifElse isGuard derived takesNone (List.mem_singleton.mp isElse) derived', ?_,
      taker'⟩
    rw [reports_append]
    exact guardReads.trans (reads.trans (otherReads.trans reads'))

theorem derivesStatement_print (ahead : pass.ahead = token :: rest)
    (isPrint : token.kind ∈ Kind.prints)
    (done : Rule.print.read run progress pass = .ok stmt next) :
    DerivesStatement pass stmt next := by
  obtain ⟨_, _, advanced, toValue⟩ := bind_eq_ok done
  obtain ⟨value, _, valueDone, toSemicolon⟩ := bind_eq_ok toValue
  obtain ⟨semicolon, _, closed, finished⟩ := bind_eq_ok toSemicolon
  obtain ⟨rfl, rfl⟩ := pure_eq_ok finished
  obtain ⟨-, keywordReads⟩ := reads_of_advance ahead advanced
  obtain ⟨tokens, notes, derived, isSemicolon, reads⟩ := value_of_semicolon valueDone closed
  exact ⟨_, _, .print isPrint derived isSemicolon, keywordReads.trans reads,
    fun takes => by cases takes⟩

theorem derivesStatement_returns (ahead : pass.ahead = token :: rest)
    (isReturn : token.kind = .mark .ampersand)
    (done : Rule.returns.read run progress pass = .ok stmt next) :
    DerivesStatement pass stmt next := by
  obtain ⟨_, _, advanced, toValue⟩ := bind_eq_ok done
  obtain ⟨value, _, valueDone, toSemicolon⟩ := bind_eq_ok toValue
  obtain ⟨semicolon, _, closed, finished⟩ := bind_eq_ok toSemicolon
  obtain ⟨rfl, rfl⟩ := pure_eq_ok finished
  obtain ⟨rfl, keywordReads⟩ := reads_of_advance ahead advanced
  rcases expressionUnless_eq_ok valueDone with ⟨rfl, rfl⟩ | ⟨expr, rfl, exprDone⟩
  · obtain ⟨semicolonReads, isSemicolon⟩ := expect_eq_ok_iff.mp closed
    exact ⟨_, _, .returns isReturn isSemicolon, keywordReads.trans semicolonReads,
      fun takes => by cases takes⟩
  · obtain ⟨tokens, notes, derived, isSemicolon, reads⟩ := value_of_semicolon exprDone closed
    exact ⟨_, _, .returnsValue isReturn derived isSemicolon, keywordReads.trans reads,
      fun takes => by cases takes⟩

theorem derivesStatement_whileDo (sound : Sound run) (standard : pass.Standard)
    (ahead : pass.ahead = token :: rest) (isWhile : token.kind = .word .while_)
    (done : Rule.whileDo.read run progress pass = .ok stmt next) :
    DerivesStatement pass stmt next := by
  obtain ⟨condition, inside, guarded, toBody⟩ := bind_eq_ok done
  obtain ⟨guard, isGuard, guardReads⟩ := guard_of_reads ahead isWhile guarded
  obtain ⟨body, _, bodyDone, finished⟩ := bind_eq_ok toBody
  obtain ⟨rfl, rfl⟩ := pure_eq_ok finished
  obtain ⟨tokens, notes, derived, reads, taker⟩ :=
    sound.statement (standard.of_reads guardReads) bodyDone
  exact ⟨_, _, .whileDo isGuard derived, guardReads.trans reads, taker⟩

theorem derivesStatement_block (sound : Sound run) (standard : pass.Standard)
    (ahead : pass.ahead = token :: rest) (isColon : token.kind = .mark .colon)
    (done : Rule.block.read run progress pass = .ok stmt next) :
    DerivesStatement pass stmt next := by
  obtain ⟨_, _, advanced, toBody⟩ := bind_eq_ok done
  obtain ⟨body, _, bodyDone, finished⟩ := bind_eq_ok toBody
  obtain ⟨rfl, rfl⟩ := pure_eq_ok finished
  obtain ⟨-, colonReads⟩ := reads_of_advance ahead advanced
  obtain ⟨tokens, dot, notes, derived, isDot, reads⟩ :=
    declarations_of_blockBy sound (standard.of_reads colonReads) bodyDone
  exact ⟨_, _, .block isColon derived isDot, colonReads.trans reads, fun takes => by cases takes⟩

theorem derivesStatement_expression
    (done : Rule.expression.read run progress pass = .ok stmt next) :
    DerivesStatement pass stmt next := by
  obtain ⟨value, _, valueDone, toSemicolon⟩ := bind_eq_ok done
  obtain ⟨semicolon, _, closed, finished⟩ := bind_eq_ok toSemicolon
  obtain ⟨rfl, rfl⟩ := pure_eq_ok finished
  obtain ⟨tokens, notes, derived, isSemicolon, reads⟩ := value_of_semicolon valueDone closed
  exact ⟨_, _, .expression derived isSemicolon, reads, fun takes => by cases takes⟩

/-- A statement that is read by the rule for it has a derivation, if the statements inside it do. -/
theorem derivesStatement_read (sound : Sound run) (standard : pass.Standard)
    (done : pass.statementRule.read run progress pass = .ok stmt next) :
    DerivesStatement pass stmt next := by
  by_cases isExpression : pass.statementRule = .expression
  · rw [isExpression] at done
    exact derivesStatement_expression done
  obtain ⟨notFunction, notVar, token, rest, ahead, head⟩ :=
    Pass.exists_head_of_statementRule standard isExpression
  cases rule : pass.statementRule with
  | function => exact absurd rule notFunction
  | var => exact absurd rule notVar
  | ifElse =>
    rw [rule] at done head
    exact derivesStatement_ifElse sound standard ahead (List.mem_singleton.mp head) done
  | print =>
    rw [rule] at done head
    exact derivesStatement_print ahead head done
  | returns =>
    rw [rule] at done head
    exact derivesStatement_returns ahead (List.mem_singleton.mp head) done
  | whileDo =>
    rw [rule] at done head
    exact derivesStatement_whileDo sound standard ahead (List.mem_singleton.mp head) done
  | block =>
    rw [rule] at done head
    exact derivesStatement_block sound standard ahead (List.mem_singleton.mp head) done
  | expression => exact absurd rule isExpression

/-! ### The rules for declarations -/

theorem derivesDeclaration_function (sound : Sound run) (standard : pass.Standard)
    (ahead : pass.ahead = token :: rest) (isTo : token.kind = .word .to_)
    (done : Rule.function.read run progress pass = .ok stmt next) :
    DerivesDeclaration pass stmt next := by
  obtain ⟨⟨name, parameters⟩, _, isHead, toBody⟩ := bind_eq_ok done
  obtain ⟨body, _, bodyDone, finished⟩ := bind_eq_ok toBody
  obtain ⟨rfl, rfl⟩ := pure_eq_ok finished
  obtain ⟨_, _, advanced, toName⟩ := bind_eq_ok isHead
  obtain ⟨_, _, named, toDash⟩ := bind_eq_ok toName
  obtain ⟨before, _, opened, toList⟩ := bind_eq_ok toDash
  obtain ⟨_, _, listedDone, toDash'⟩ := bind_eq_ok toList
  obtain ⟨after, _, closed, toColon⟩ := bind_eq_ok toDash'
  obtain ⟨colon, _, begun, headFinished⟩ := bind_eq_ok toColon
  obtain ⟨same, rfl⟩ := pure_eq_ok headFinished
  obtain ⟨rfl, rfl⟩ := Prod.mk.inj same
  obtain ⟨-, keywordReads⟩ := reads_of_advance ahead advanced
  obtain ⟨nameReads, isName⟩ := expect_eq_ok_iff.mp named
  obtain ⟨beforeReads, isBefore⟩ := expect_eq_ok_iff.mp opened
  obtain ⟨inner, list, isListed, listReads⟩ := listed_of_listed single_parameter listedDone
  obtain ⟨afterReads, isAfter⟩ := expect_eq_ok_iff.mp closed
  obtain ⟨colonReads, isColon⟩ := expect_eq_ok_iff.mp begun
  have headReads := keywordReads.trans (nameReads.trans (beforeReads.trans
    (listReads.trans (afterReads.trans colonReads))))
  obtain ⟨tokens, dot, notes, derived, isDot, reads⟩ :=
    declarations_of_blockBy sound (standard.of_reads headReads) bodyDone
  obtain rfl := isListed.eq_of_parameter
  refine ⟨_, _, .function isTo isName isBefore isListed isAfter isColon derived isDot,
    (headReads.trans reads).cast ?_ ?_⟩
  · simp only [List.cons_append, List.nil_append, List.append_assoc]
  · simp only [reports_cons, reports_nil, List.nil_append, List.append_nil]

theorem derivesDeclaration_var (ahead : pass.ahead = token :: rest)
    (isLet : token.kind = .word .let_) (done : Rule.var.read run progress pass = .ok stmt next) :
    DerivesDeclaration pass stmt next := by
  obtain ⟨_, _, advanced, toName⟩ := bind_eq_ok done
  obtain ⟨name, _, named, toValue⟩ := bind_eq_ok toName
  obtain ⟨value, _, valueDone, toSemicolon⟩ := bind_eq_ok toValue
  obtain ⟨semicolon, _, closed, finished⟩ := bind_eq_ok toSemicolon
  obtain ⟨rfl, rfl⟩ := pure_eq_ok finished
  obtain ⟨-, keywordReads⟩ := reads_of_advance ahead advanced
  obtain ⟨nameReads, isName⟩ := expect_eq_ok_iff.mp named
  rcases expressionAfter_eq_ok valueDone with
    ⟨rfl, rfl⟩ | ⟨be, _, expr, rfl, isBe, beReads, exprDone⟩
  · obtain ⟨semicolonReads, isSemicolon⟩ := expect_eq_ok_iff.mp closed
    exact ⟨_, _, .var isLet isName isSemicolon,
      keywordReads.trans (nameReads.trans semicolonReads)⟩
  · obtain ⟨tokens, notes, derived, isSemicolon, reads⟩ := value_of_semicolon exprDone closed
    exact ⟨_, _, .varValue isLet isName isBe derived isSemicolon,
      keywordReads.trans (nameReads.trans (beReads.trans reads))⟩

/-- A declaration that is read by the rule for it has a derivation, if the statements inside it
do. -/
theorem derivesDeclaration_read (sound : Sound run) (standard : pass.Standard)
    (done : pass.declarationRule.read run progress pass = .ok stmt next) :
    DerivesDeclaration pass stmt next := by
  rcases Pass.declarationRule_cases standard with isStatement | ⟨isRule, token, rest, ahead, head⟩
  · rw [isStatement] at done
    obtain ⟨tokens, notes, derived, reads, -⟩ := derivesStatement_read sound standard done
    exact ⟨tokens, notes, .statement derived, reads⟩
  · rcases isRule with isRule | isRule
    · rw [isRule] at done head
      exact derivesDeclaration_function sound standard ahead (List.mem_singleton.mp head) done
    · rw [isRule] at done head
      exact derivesDeclaration_var ahead (List.mem_singleton.mp head) done

/-- Statements and declarations are read by the grammar. -/
theorem sound_byRule : Sound byRule := by
  have derives {rule : Rule} {pass next : Pass} {stmt : Stmt}
      (done : byRule rule pass = .ok stmt next) : pass.Standard →
        (rule = pass.statementRule → DerivesStatement pass stmt next) ∧
        (rule = pass.declarationRule → DerivesDeclaration pass stmt next) := by
    refine Recursion.rules.value_induction
      (motive := fun rule pass stmt next => pass.Standard →
        (rule = pass.statementRule → DerivesStatement pass stmt next) ∧
        (rule = pass.declarationRule → DerivesDeclaration pass stmt next)) ?_ done
    intro run progress inductionHypothesis rule pass stmt next done standard
    have sound : Sound run := ⟨progress,
      fun standard done => (inductionHypothesis done standard).1 rfl,
      fun standard done => (inductionHypothesis done standard).2 rfl⟩
    refine ⟨fun isRule => ?_, fun isRule => ?_⟩
    · subst isRule
      exact derivesStatement_read sound standard done
    · subst isRule
      exact derivesDeclaration_read sound standard done
  exact ⟨Rule.progress_byRule, fun standard done => (derives done standard).1 rfl,
    fun standard done => (derives done standard).2 rfl⟩

end Reading

namespace Pass

variable {pass : Pass}

theorem slot_declaration (standard : pass.Standard) :
    Slot pass pass.declaration.1 pass.declaration.2 :=
  slot_recover (Rule.progress_byRule _).toForward
    fun done => Reading.sound_byRule.declaration standard done

theorem slots_declarations (standard : pass.Standard) :
    Slots pass pass.declarations.1 pass.declarations.2 :=
  slots_declarationsUntil _ (fun _ standard => slot_declaration standard) standard

/-- Declarations among which nothing fatal was reported have a derivation. -/
theorem Slots.declarations_of_reports {next : Pass} {stmts : List Stmt} {tokens : List Token}
    {reports : List Diagnostic} (slots : Slots pass stmts next)
    (reads : pass.Reads tokens reports next)
    (noFatal : ∀ report ∈ reports, report.fault.cause.fatal = false) :
    ∃ notes, Declarations .full tokens stmts notes ∧ Grammar.reports notes = reports := by
  induction slots generalizing tokens reports with
  | nil =>
    obtain rfl := reads.tokens_eq (Reads.refl _)
    obtain rfl := reads.reports_eq (Reads.refl _)
    exact ⟨[], .nil, rfl⟩
  | cons slot slots inductionHypothesis =>
    obtain ⟨tokens', reports', reads'⟩ := slots.exists_reads
    cases slot with
    | read derived first =>
      obtain rfl := reads.tokens_eq (first.trans reads')
      obtain rfl := reads.reports_eq (first.trans reads')
      obtain ⟨notes', derived', reported⟩ := inductionHypothesis reads' fun report member =>
        noFatal report (List.mem_append_right _ member)
      refine ⟨_, .cons derived derived', ?_⟩
      rw [reports_append, reported]
    | ended _ _ fatal first =>
      obtain rfl := reads.reports_eq (first.trans reads')
      have noted := noFatal _ (List.mem_append_left _ (List.mem_append_right _ List.mem_cons_self))
      rw [fatal] at noted
      cases noted

/-- A program of which nothing fatal is reported has a derivation. -/
theorem exists_derivation (standard : pass.Standard) (fresh : pass.log.reported = [])
    (noFatal : ∀ report ∈ pass.declarations.2.log.reported, report.fault.cause.fatal = false) :
    ∃ notes, Declarations .full pass.ahead pass.declarations.1 notes ∧
      Grammar.reports notes = pass.declarations.2.log.reported := by
  have slots := slots_declarations standard
  obtain ⟨tokens, reports, reads⟩ := slots.exists_reads
  have log := reads.log
  have ahead := reads.ahead
  rw [fresh, List.nil_append] at log
  rw [ahead_declarations, List.append_nil] at ahead
  rw [log] at noFatal ⊢
  rw [ahead]
  exact slots.declarations_of_reports reads noFatal

end Pass

end Parlance
