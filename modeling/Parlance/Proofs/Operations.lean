/-
This file proves that a pass is safe whatever is done with it. The operations of a pass can be
performed in any order and any number of times, also where no program would need them: a rule can be
run at the end or in front of a token it does not begin with, reports can be made of anything, and
the tables can be changed in between. Whether an operation answers or fails, the pass stays over the
same tokens, never gets back and never beyond the first end token, and keeps what was reported. So
the current token and the previous one can always be looked at. And no operation tells apart two
lists of tokens that differ only behind their first end token: two passes over them keep in step.
-/

import Mathlib
import Parlance.Program
import Parlance.Proofs.InStep

namespace Parlance

/-! ### Operations -/

/-- A way to read an expression, which is looser or tighter than others. -/
inductive Level where
  | expression
  | assignment
  | disjunction
  | conjunction
  | equality
  | unary
  | call
  | primary

/-- Reads an expression of a level. -/
def Level.read : Level → Reading Expr
  | expression => Reading.expression
  | assignment => Reading.assignment
  | disjunction => Reading.disjunction
  | conjunction => Reading.conjunction
  | equality => Reading.equality
  | unary => Reading.unary
  | call => Reading.call
  | primary => Reading.primary

/-- What can be done with a pass. -/
inductive Operation where
  | advance
  | check (kind : Kind)
  | take (kinds : List Kind)
  | expect (kind : Kind) (message : String)
  | synchronize
  | report (token : Token) (cause : Cause)
  | reportFault (token : Token) (fault : Fault)
  | setDeclarationRule (kind : Kind) (rule : Rule)
  | setStatementRule (kind : Kind) (rule : Rule)
  /-- Reads all declarations up to the end. -/
  | program
  | declaration
  | statement
  /-- Reads declarations up to the dot that closes a block. -/
  | block
  | byRule (rule : Rule)
  | expr (level : Level)

/-- What an operation answers. -/
inductive Answer where
  | done
  | flag (value : Bool)
  | token (token : Token)
  | expr (expr : Expr)
  | stmt (stmt : Stmt)
  | stmts (stmts : List Stmt)
  | fault (fault : Fault)

/-- The answer of a reading, and the pass behind it. -/
def Reading.answer {α : Type} (answer : α → Answer) (reading : Reading α) (pass : Pass) :
    Answer × Pass :=
  match reading pass with
  | .ok value next => (answer value, next)
  | .error fault next => (.fault fault, next)

/-- Performs an operation. -/
def Operation.perform : Operation → Pass → Answer × Pass
  | advance, pass => Reading.advance.answer .token pass
  | check kind, pass => (.flag (pass.check kind), pass)
  | take kinds, pass => (Reading.take? kinds).answer (fun found => .flag found.isSome) pass
  | expect kind message, pass => (Reading.expect kind message).answer .token pass
  | synchronize, pass => (.done, pass.synchronize)
  | report token cause, pass => (.done, pass.report token cause)
  | reportFault token fault, pass => (.done, pass.reportFault token fault)
  | setDeclarationRule kind rule, pass => (.done, pass.setDeclarationRule kind rule)
  | setStatementRule kind rule, pass => (.done, pass.setStatementRule kind rule)
  | program, pass => (.stmts pass.declarations.1, pass.declarations.2)
  | declaration, pass => (.stmt pass.declaration.1, pass.declaration.2)
  | statement, pass => Reading.statement.answer .stmt pass
  | block, pass => Reading.block.answer .stmts pass
  | byRule rule, pass => (Reading.byRule rule).answer .stmt pass
  | expr level, pass => level.read.answer .expr pass

/-- Performs operations one after another. -/
def Pass.performAll (pass : Pass) : List Operation → List Answer × Pass
  | [] => ([], pass)
  | operation :: rest =>
    let (answer, next) := operation.perform pass
    let (answers, last) := next.performAll rest
    (answer :: answers, last)

namespace Pass

/-! ### What an operation does to a pass -/

/-- A pass has become another one, whose tables may be others: some tokens have been read that were
ahead, and reports have been added. -/
structure Onward (pass next : Pass) : Prop where
  stream : next.stream = pass.stream
  read : ∃ tokens, next.cursor = pass.cursor + tokens.length ∧ pass.ahead = tokens ++ next.ahead
  log : pass.log.reported <+: next.log.reported

namespace Onward

variable {pass middle next : Pass}

theorem refl (pass : Pass) : pass.Onward pass :=
  ⟨rfl, ⟨[], rfl, rfl⟩, List.prefix_rfl⟩

theorem trans (first : pass.Onward middle) (second : middle.Onward next) : pass.Onward next := by
  obtain ⟨tokens, cursor, ahead⟩ := first.read
  obtain ⟨tokens', cursor', ahead'⟩ := second.read
  refine ⟨second.stream.trans first.stream, ⟨tokens ++ tokens', ?_, ?_⟩,
    first.log.trans second.log⟩
  · rw [cursor', cursor, List.length_append, Nat.add_assoc]
  · rw [ahead, ahead', List.append_assoc]

theorem of_reads {tokens : List Token} {reports : List Diagnostic}
    (reads : pass.Reads tokens reports next) : pass.Onward next :=
  ⟨reads.stream, ⟨tokens, reads.cursor, reads.ahead⟩, ⟨reports, reads.log.symm⟩⟩

theorem of_moves {allowed : Kind → Prop} (moves : pass.Moves allowed next) : pass.Onward next := by
  obtain ⟨tokens, reports, reads, -⟩ := moves
  exact of_reads reads

theorem cursor_le (onward : pass.Onward next) : pass.cursor ≤ next.cursor := by
  obtain ⟨tokens, cursor, -⟩ := onward.read
  rw [cursor]
  exact Nat.le_add_right _ _

theorem behind_eq (onward : pass.Onward next) :
    ∃ tokens, pass.ahead = tokens ++ next.ahead ∧ next.behind = tokens.reverse ++ pass.behind := by
  obtain ⟨tokens, cursor, ahead⟩ := onward.read
  exact ⟨tokens, ahead, (view_of_cursor onward.stream cursor ahead).1⟩

theorem tokens_eq (onward : pass.Onward next) : next.tokens = pass.tokens := by
  obtain ⟨tokens, ahead, behind⟩ := onward.behind_eq
  rw [Pass.tokens, Pass.tokens, ahead, behind, List.reverse_append, List.reverse_reverse,
    List.append_assoc]

theorem final_eq (onward : pass.Onward next) : next.final = pass.final := by
  obtain ⟨tokens, cursor, ahead⟩ := onward.read
  exact (view_of_cursor onward.stream cursor ahead).2.2

end Onward

end Pass

theorem Level.forward_read (level : Level) : level.read.Forward fun _ => True := by
  cases level with
  | expression => exact Reading.progress_expression.any.toForward
  | assignment => exact Reading.progress_expression.any.toForward
  | disjunction => exact Reading.progress_disjunction.any.toForward
  | conjunction => exact Reading.progress_conjunction.any.toForward
  | equality => exact Reading.progress_equality.any.toForward
  | unary => exact Reading.progress_unary.any.toForward
  | call => exact Reading.progress_call.any.toForward
  | primary => exact Reading.progress_primary.any.toForward

theorem Reading.Forward.onward_answer {α : Type} {allowed : Kind → Prop} {reading : Reading α}
    (forward : reading.Forward allowed) (answer : α → Answer) (pass : Pass) :
    pass.Onward (reading.answer answer pass).2 := by
  unfold Reading.answer
  split
  · rename_i value next done
    exact .of_moves (forward.done done)
  · rename_i fault next failed
    exact .of_moves (forward.failed failed).1

/-- One operation only gets a pass further. -/
theorem Operation.onward_perform (operation : Operation) (pass : Pass) :
    pass.Onward (operation.perform pass).2 := by
  have rules (rule : Rule) : (Reading.byRule rule).Forward fun _ => True :=
    (Rule.progress_byRule rule).toForward
  cases operation with
  | advance => exact Reading.forward_advance.onward_answer _ pass
  | check kind => exact .refl pass
  | take kinds =>
    have forward : (Reading.take? kinds).Forward fun _ => True :=
      Reading.forward_take? fun _ _ => trivial
    exact forward.onward_answer _ pass
  | expect kind message =>
    have progress : (Reading.expect kind message).Progress fun _ => True :=
      Reading.progress_expect trivial
    exact progress.toForward.onward_answer _ pass
  | synchronize => exact .of_moves (Pass.moves_synchronize pass)
  | report token cause =>
    exact .of_reads (Pass.reads_report pass token cause)
  | reportFault token fault =>
    exact .of_reads (Pass.reads_reportFault pass token fault)
  | setDeclarationRule kind rule => exact ⟨rfl, ⟨[], rfl, rfl⟩, List.prefix_rfl⟩
  | setStatementRule kind rule => exact ⟨rfl, ⟨[], rfl, rfl⟩, List.prefix_rfl⟩
  | program => exact .of_moves (Pass.moves_declarations pass)
  | declaration => exact .of_moves (Pass.moves_declaration pass)
  | statement => exact Reading.forward_statement.onward_answer _ pass
  | block => exact (Reading.progress_blockBy Rule.progress_byRule).toForward.onward_answer _ pass
  | byRule rule => exact (rules rule).onward_answer _ pass
  | expr level => exact level.forward_read.onward_answer _ pass

namespace Pass

theorem onward_performAll (pass : Pass) (operations : List Operation) :
    pass.Onward (pass.performAll operations).2 := by
  induction operations generalizing pass with
  | nil => exact .refl pass
  | cons operation rest inductionHypothesis =>
    exact (operation.onward_perform pass).trans (inductionHypothesis _)

theorem performAll_append (pass : Pass) (earlier later : List Operation) :
    (pass.performAll (earlier ++ later)).2 = ((pass.performAll earlier).2.performAll later).2 := by
  induction earlier generalizing pass with
  | nil => rfl
  | cons operation rest inductionHypothesis => exact inductionHypothesis _

/-! ### The tokens that a pass is over -/

/-- A pass is over a list of tokens, and has read no end token. -/
structure Over (all : List Token) (pass : Pass) : Prop where
  stream : pass.stream.toList = all
  noEof : ∀ token ∈ pass.behind, token.kind ≠ .eof

namespace Over

variable {all : List Token} {pass next : Pass}

/-- A pass that starts is over all the tokens, closed by an end token. -/
theorem start (tokens : List Token) (file : String) :
    (Pass.start tokens file).Over (Token.closed tokens file) :=
  ⟨rfl, fun _ member => absurd member List.not_mem_nil⟩

/-- What is read was ahead, where there is no end token. -/
theorem onward (isOver : pass.Over all) (onward : pass.Onward next) : next.Over all where
  stream := by
    rw [onward.stream]
    exact isOver.stream
  noEof := by
    obtain ⟨tokens, ahead, behind⟩ := onward.behind_eq
    rw [behind]
    refine List.forall_mem_append.mpr ⟨fun token member => pass.noEof_ahead token ?_, isOver.noEof⟩
    rw [ahead]
    exact List.mem_append_left _ (List.mem_reverse.mp member)

/-- All tokens are those that have been read, those ahead, the end token, and any others. -/
theorem whole (isOver : pass.Over all) : ∃ unseen, pass.tokens ++ pass.final :: unseen = all := by
  obtain ⟨unseen, rest⟩ := pass.exists_rest_eq
  exact ⟨unseen, by rw [Pass.tokens, List.append_assoc, ← rest, ← stream_eq, isOver.stream]⟩

/-- The first end token stands behind the tokens that can be read. -/
theorem findIdx_eq (isOver : pass.Over all) :
    all.findIdx (·.kind = .eof) = pass.cursor + pass.ahead.length := by
  obtain ⟨unseen, rfl⟩ := isOver.whole
  have noEof : ∀ token ∈ pass.tokens, token.kind ≠ .eof :=
    List.forall_mem_append.mpr
      ⟨fun token member => isOver.noEof token (List.mem_reverse.mp member), pass.noEof_ahead⟩
  have none : pass.tokens.findIdx (·.kind = .eof) = pass.tokens.length :=
    List.findIdx_eq_length.mpr fun token member => decide_eq_false (noEof token member)
  rw [List.findIdx_append, none, if_neg (Nat.lt_irrefl _), List.findIdx_cons, pass.kind_final,
    Pass.tokens, List.length_append, List.length_reverse, length_behind]
  exact Nat.zero_add _

theorem cursor_le (isOver : pass.Over all) : pass.cursor ≤ all.findIdx (·.kind = .eof) := by
  rw [isOver.findIdx_eq]
  exact Nat.le_add_right _ _

/-- The cursor is at the first end token when no token is left. -/
theorem atEnd_iff (isOver : pass.Over all) :
    pass.ahead = [] ↔ pass.cursor = all.findIdx (·.kind = .eof) := by
  rw [isOver.findIdx_eq, ← List.length_eq_zero_iff]
  omega

/-- The token at the cursor is the current one. -/
theorem getElem?_cursor (isOver : pass.Over all) : all[pass.cursor]? = some pass.current := by
  rw [← isOver.stream, Array.getElem?_toList]
  exact Array.getElem?_eq_getElem pass.inside

/-- The token in front of the cursor is the previous one. At the beginning it is the current one. -/
theorem getElem?_previous (isOver : pass.Over all) :
    all[pass.cursor - 1]? = some pass.previous := by
  rw [← isOver.stream, Array.getElem?_toList]
  exact Array.getElem?_eq_getElem _

/-- The tokens up to the first end token are found in any list that agrees up to there. -/
theorem getElem?_of_append {tokens unseen : List Token} {eof : Token} {file : String}
    (isOver : pass.Over (Token.closed (tokens ++ eof :: unseen) file))
    (noEof : ∀ token ∈ tokens, token.kind ≠ .eof) (isEof : eof.kind = .eof) :
    pass.cursor ≤ tokens.length ∧
      (tokens ++ eof :: unseen)[pass.cursor]? = some pass.current ∧
      (tokens ++ eof :: unseen)[pass.cursor - 1]? = some pass.previous := by
  obtain ⟨unseen', closed⟩ := Token.exists_closed_append tokens unseen eof file
  rw [closed] at isOver
  have first : (tokens ++ eof :: unseen').findIdx (·.kind = .eof) = tokens.length := by
    have none : tokens.findIdx (·.kind = .eof) = tokens.length :=
      List.findIdx_eq_length.mpr fun token member => decide_eq_false (noEof token member)
    rw [List.findIdx_append, none, if_neg (Nat.lt_irrefl _), List.findIdx_cons, isEof]
    exact Nat.zero_add _
  have cursor_le : pass.cursor ≤ tokens.length := first ▸ isOver.cursor_le
  have agree {index : Nat} (inside : index ≤ tokens.length) :
      (tokens ++ eof :: unseen)[index]? = (tokens ++ eof :: unseen')[index]? := by
    have inside : index < (tokens ++ [eof]).length := by
      rw [List.length_append]
      exact Nat.lt_succ_of_le inside
    rw [List.append_cons tokens eof unseen, List.append_cons tokens eof unseen',
      List.getElem?_append_left inside, List.getElem?_append_left inside]
  exact ⟨cursor_le, (agree cursor_le).trans isOver.getElem?_cursor,
    (agree (Nat.le_trans (Nat.sub_le _ _) cursor_le)).trans isOver.getElem?_previous⟩

end Over

/-- Where a reading fails without moving, its operation changes nothing. -/
theorem eq_of_answer_fault {α : Type} {answer : α → Answer} {reading : Reading α} {fault : Fault}
    {pass next : Pass} (noFault : ∀ value, answer value ≠ .fault fault)
    (stays : ∀ {fault next}, reading pass = .error fault next → next = pass)
    (failed : reading.answer answer pass = (.fault fault, next)) : next = pass := by
  unfold Reading.answer at failed
  split at failed
  · exact absurd (congrArg Prod.fst failed) (noFault _)
  · rename_i outcome
    obtain ⟨-, rfl⟩ := Prod.mk.inj failed
    exact stays outcome

/-- Whatever operations are performed on a pass, and whatever they answer, it stays over the same
tokens, and further operations neither take it back nor beyond the first end token nor change what
was reported before. The tokens at its cursor and in front of it are there to be looked at. Where a
token that is required or a single token as an expression cannot be read, nothing changes at all. -/
theorem performAll_safe (tokens : List Token) (file : String) (earlier later : List Operation) :
    let all := Token.closed tokens file
    let before := ((start tokens file).performAll earlier).2
    let after := ((start tokens file).performAll (earlier ++ later)).2
    (before.stream.toList = all ∧ after.stream.toList = all) ∧
    (∃ unseen, before.tokens ++ before.final :: unseen = all ∧
      after.tokens ++ after.final :: unseen = all) ∧
    before.cursor ≤ after.cursor ∧
    after.cursor ≤ all.findIdx (·.kind = .eof) ∧
    all[after.cursor]? = some after.current ∧
    all[after.cursor - 1]? = some after.previous ∧
    before.log.reported <+: after.log.reported ∧
    (∀ kind message fault next,
      (Operation.expect kind message).perform after = (.fault fault, next) → next = after) ∧
    ∀ fault next,
      (Operation.expr .primary).perform after = (.fault fault, next) → next = after := by
  intro all before after
  have overBefore := (Over.start tokens file).onward (onward_performAll _ earlier)
  have onward : before.Onward after := by
    show before.Onward ((start tokens file).performAll (earlier ++ later)).2
    rw [performAll_append]
    exact onward_performAll before later
  have isOver := overBefore.onward onward
  obtain ⟨unseen, whole⟩ := overBefore.whole
  have whole : before.tokens ++ before.final :: unseen = all := whole
  refine ⟨⟨overBefore.stream, isOver.stream⟩, ⟨unseen, whole, ?_⟩, onward.cursor_le,
    isOver.cursor_le, isOver.getElem?_cursor, isOver.getElem?_previous, onward.log, ?_, ?_⟩
  · rw [← whole, onward.tokens_eq, onward.final_eq]
  · intro kind message fault next failed
    exact eq_of_answer_fault (fun _ => Answer.noConfusion)
      (fun outcome => (Reading.expect_eq_error_iff.mp outcome).2.1) failed
  · intro fault next failed
    exact eq_of_answer_fault (fun _ => Answer.noConfusion)
      (fun outcome => (Reading.primary_eq_error_iff.mp outcome).1) failed

end Pass

/-! ### Behind the first end token -/

/-- Outcomes in step give the same answer. -/
theorem Simulation.Outcomes.answer_eq {α : Type} {values : α → α → Prop} {stage : Stage}
    {reading : Reading α} {pass pass' : Pass}
    (outcomes : Pairing.equal.simulation.Outcomes values stage (reading pass) (reading pass'))
    {answer : α → Answer}
    (same : ∀ {value value'}, values value value' → answer value = answer value') :
    (reading.answer answer pass).1 = (reading.answer answer pass').1 ∧
      (reading.answer answer pass).2.Alike .equal (reading.answer answer pass').2 := by
  unfold Reading.answer
  generalize reading pass = outcome at outcomes
  generalize reading pass' = outcome' at outcomes
  cases outcomes with
  | ok alike passes => exact ⟨same alike, passes⟩
  | error faults => exact ⟨congrArg Answer.fault faults.1, faults.2⟩

theorem Level.inStep_read (level : Level) :
    ∃ stage, Pairing.equal.simulation.InStep .inside (Expr.Alike Eq) stage level.read
      level.read := by
  have kept : Pairing.equal.simulation.InAssignments := Pairing.inAssignments
  cases level with
  | expression => exact ⟨.value, kept.inStep_expression⟩
  | assignment => exact ⟨.value, kept.inStep_expression⟩
  | disjunction => exact ⟨.inside, kept.inStep_disjunction⟩
  | conjunction => exact ⟨.inside, kept.inStep_conjunction⟩
  | equality => exact ⟨.inside, kept.inStep_equality⟩
  | unary => exact ⟨.inside, kept.inStep_unary⟩
  | call => exact ⟨.inside, kept.inStep_call⟩
  | primary => exact ⟨.inside, kept.inStep_primary⟩

/-- An operation answers the same in two passes with the same tokens around them, and leaves them
so. -/
theorem Operation.perform_alike (operation : Operation) {pass pass' : Pass}
    (passes : pass.Alike .equal pass') :
    (operation.perform pass).1 = (operation.perform pass').1 ∧
      (operation.perform pass).2.Alike .equal (operation.perform pass').2 := by
  have kept : Pairing.equal.simulation.InPrograms := Pairing.inPrograms
  cases operation with
  | advance => exact (kept.advance passes).answer_eq (congrArg _)
  | check kind => exact ⟨congrArg Answer.flag (passes.check_eq (Pairing.equal_asks _)), passes⟩
  | take kinds =>
    have inStep : Pairing.equal.simulation.InStep .inside (Option.Rel Eq) .inside
        (Reading.take? kinds) (Reading.take? kinds) :=
      Pairing.inStep_take? (Pairing.equal_asks kinds)
    refine (inStep passes).answer_eq fun founds => ?_
    cases founds with
    | none => rfl
    | some _ => rfl
  | expect kind message =>
    have inStep : Pairing.equal.simulation.InStep .inside Eq .inside (Reading.expect kind message)
        (Reading.expect kind message) := Pairing.inStep_expect message (Pairing.equal_asks [kind])
    exact (inStep passes).answer_eq (congrArg _)
  | synchronize => exact ⟨rfl, passes.synchronize⟩
  | report token cause => exact ⟨rfl, passes.reportFault rfl rfl⟩
  | reportFault token fault => exact ⟨rfl, passes.reportFault rfl rfl⟩
  | setDeclarationRule kind rule =>
    have tables : pass.declarationRules = pass'.declarationRules := passes.declarationRules
    exact ⟨rfl, passes.behind, passes.ahead, passes.final, passes.log,
      congrArg (RuleTable.set · kind rule) tables, passes.statementRules⟩
  | setStatementRule kind rule =>
    have tables : pass.statementRules = pass'.statementRules := passes.statementRules
    exact ⟨rfl, passes.behind, passes.ahead, passes.final, passes.log, passes.declarationRules,
      congrArg (RuleTable.set · kind rule) tables⟩
  | program =>
    obtain ⟨stmts, nexts⟩ := kept.parallel_declarations passes
    exact ⟨congrArg Answer.stmts (Stmt.Alike.all_eq stmts), nexts⟩
  | declaration =>
    obtain ⟨stmts, nexts⟩ := kept.parallel_declaration passes fun rule =>
      kept.inStep_byRule rule passes
    exact ⟨congrArg Answer.stmt stmts.eq, nexts⟩
  | statement => exact (kept.inStep_statement passes).answer_eq fun stmts => congrArg _ stmts.eq
  | block =>
    exact (kept.inStep_block passes).answer_eq fun bodies => congrArg _ (Stmt.Alike.all_eq bodies)
  | byRule rule =>
    exact (kept.inStep_byRule rule passes).answer_eq fun stmts => congrArg _ stmts.eq
  | expr level =>
    obtain ⟨stage, inStep⟩ := level.inStep_read
    exact (inStep passes).answer_eq fun exprs => congrArg _ exprs.eq

theorem Pass.Alike.performAll {pass pass' : Pass} (passes : pass.Alike .equal pass')
    (operations : List Operation) :
    (pass.performAll operations).1 = (pass'.performAll operations).1 ∧
      (pass.performAll operations).2.Alike .equal (pass'.performAll operations).2 := by
  induction operations generalizing pass pass' with
  | nil => exact ⟨rfl, passes⟩
  | cons operation rest inductionHypothesis =>
    obtain ⟨answer, nexts⟩ := operation.perform_alike passes
    obtain ⟨answers, lasts⟩ := inductionHypothesis nexts
    exact ⟨congrArg₂ List.cons answer answers, lasts⟩

/-- Passes that are alike with the same tokens stand at the same place. -/
theorem Pass.Alike.cursor_eq {pass pass' : Pass} (passes : pass.Alike .equal pass') :
    pass.cursor = pass'.cursor := by
  rw [← length_behind, ← length_behind]
  exact passes.behind.length_eq

theorem Pass.Alike.log_eq {pass pass' : Pass} (passes : pass.Alike .equal pass') :
    pass.log = pass'.log := by
  have reports : List.Forall₂ Eq pass.log.reported pass'.log.reported :=
    passes.log.imp fun report report' both => congrArg₂ Diagnostic.mk both.1 both.2
  rw [List.forall₂_eq_eq_eq] at reports
  exact Log.ext reports

section BehindEof

variable {tokens : List Token} {eof : Token}

/-- What stands behind the first end token makes no difference to the view of a pass. -/
theorem Pass.start_behind_eof (noEof : ∀ token ∈ tokens, token.kind ≠ .eof)
    (isEof : eof.kind = .eof) (unseen unseen' : List Token) (file : String) :
    (start (tokens ++ eof :: unseen) file).Alike .equal
      (start (tokens ++ eof :: unseen') file) := by
  obtain ⟨ahead, final⟩ := start_append_eof noEof isEof unseen file
  obtain ⟨ahead', final'⟩ := start_append_eof noEof isEof unseen' file
  refine start_alike ⟨rfl, rfl⟩ ?_ (final.trans final'.symm)
  rw [ahead, ahead']
  exact List.forall₂_same.mpr fun _ _ => rfl

/-- What stands behind the first end token makes no difference, neither to the program that is read
and its reports nor to the answers of any operations: whatever has been done, two passes with
different tokens there have their cursors at the same index, not beyond the first end token, where
both look at the same tokens and have reported the same. -/
theorem Program.ofTokens_behind_eof (noEof : ∀ token ∈ tokens, token.kind ≠ .eof)
    (isEof : eof.kind = .eof) (unseen : List Token) (file : String) :
    (ofTokens (tokens ++ eof :: unseen) file).statements =
        (ofTokens (tokens ++ [eof]) file).statements ∧
      (ofTokens (tokens ++ eof :: unseen) file).log = (ofTokens (tokens ++ [eof]) file).log ∧
      ∀ operations,
        let outcome := (Pass.start (tokens ++ eof :: unseen) file).performAll operations
        let outcome' := (Pass.start (tokens ++ [eof]) file).performAll operations
        outcome.1 = outcome'.1 ∧ outcome.2.cursor = outcome'.2.cursor ∧
        outcome.2.current = outcome'.2.current ∧ outcome.2.previous = outcome'.2.previous ∧
        outcome.2.log = outcome'.2.log ∧ outcome.2.cursor ≤ tokens.length ∧
        (tokens ++ eof :: unseen)[outcome.2.cursor]? = some outcome.2.current ∧
        (tokens ++ eof :: unseen)[outcome.2.cursor - 1]? = some outcome.2.previous := by
  have passes := Pass.start_behind_eof noEof isEof unseen [] file
  obtain ⟨stmts, lasts⟩ := Pairing.inPrograms.parallel_declarations passes
  refine ⟨Stmt.Alike.all_eq stmts, lasts.log_eq, fun operations => ?_⟩
  obtain ⟨answers, nexts⟩ := passes.performAll operations
  have isOver := (Pass.Over.start (tokens ++ eof :: unseen) file).onward
    (Pass.onward_performAll _ operations)
  obtain ⟨cursor_le, atCursor, before⟩ := isOver.getElem?_of_append noEof isEof
  exact ⟨answers, nexts.cursor_eq, nexts.current, nexts.previous, nexts.log_eq, cursor_le,
    atCursor, before⟩

end BehindEof

/-- A block without its dot and a statement without its semicolon: what both lack stands behind the
end token and is not seen. -/
theorem Program.ofTokens_behind_eof_unclosed :
    let eof : Token := .bare .eof "EOF"
    let tokens : List Token := [.ofMark .colon, .ofWord .say, .ofName "x"]
    let program := ofTokens (tokens ++ eof :: [.ofMark .semicolon, .ofMark .dot, eof]) "f"
    (∀ token ∈ tokens, token.kind ≠ .eof) ∧ eof.kind = .eof ∧
      program.statements = (ofTokens (tokens ++ [eof]) "f").statements ∧
      program.log = (ofTokens (tokens ++ [eof]) "f").log ∧
      program.statements = [.error eof] ∧
      program.log.reported.map (·.fault.cause.message) =
        ["Expect ';' after value.", "Expect '.' after block."] := by
  intro eof tokens program
  have noEof : ∀ token ∈ tokens, token.kind ≠ .eof := by decide
  have isEof : eof.kind = .eof := rfl
  obtain ⟨statements, log, -⟩ :=
    ofTokens_behind_eof noEof isEof [.ofMark .semicolon, .ofMark .dot, eof] "f"
  exact ⟨noEof, isEof, statements, log, by cbv, by decide +kernel⟩

end Parlance
