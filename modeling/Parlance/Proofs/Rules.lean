/-
This file takes two runs that read in step through the rules. A rule reads its keyword, expressions
and lists, and the statements and bodies inside its own. If two runs keep in step in all of these,
then they do in the rule; of a statement inside it is known that it begins with fewer tokens left,
and of a body also that the rule opens it. So the way through the rules is gone once. Where a
failure is recovered from in step too, the two runs keep in step through whole programs, and it does
not matter how deep statements are nested.
-/

import Parlance.Proofs.Simulation
import Parlance.Proofs.Termination

namespace Parlance

open Reading

/-- A rule that began at `pass` gets to the beginning of a body at `opened`: the body of a block or
function, or a body inside the statement that a condition stands in front of. -/
inductive Rule.Opens : Rule → Pass → Pass → Prop
  | block {pass token opened} : advance pass = .ok token opened → Opens .block pass opened
  | function {pass head opened} : functionHead pass = .ok head opened → Opens .function pass opened
  | whileDo {pass test middle opened} : whileHead pass = .ok test middle →
      Opens middle.statementRule middle opened → Opens .whileDo pass opened
  | ifThen {pass test middle opened} : ifHead pass = .ok test middle →
      Opens middle.statementRule middle opened → Opens .ifElse pass opened
  | ifElse {pass test middle body behind token last opened} : ifHead pass = .ok test middle →
      statement middle = .ok body behind → take? [.word .else_] behind = .ok (some token) last →
      Opens last.statementRule last opened → Opens .ifElse pass opened

/-- A rule gets forward to the bodies that it opens. -/
theorem Rule.Opens.moves {rule : Rule} {pass opened : Pass} (opens : rule.Opens pass opened) :
    pass.Moves (fun _ => True) opened := by
  induction opens with
  | block advanced => exact forward_advance.done advanced
  | function isHead => exact progress_functionHead.done isHead
  | whileDo isHead _ inductionHypothesis =>
    exact ((progress_guard _ _).done isHead).trans inductionHypothesis
  | ifThen isHead _ inductionHypothesis =>
    exact ((progress_guard _ _).done isHead).trans inductionHypothesis
  | ifElse isHead isRead taken _ inductionHypothesis =>
    have toElse := (forward_take? fun _ _ => trivial).done taken
    exact ((progress_guard _ _).done isHead).trans
      ((forward_statement.done isRead).trans (toElse.trans inductionHypothesis))

namespace Simulation

variable {simulation : Simulation} {pass pass' : Pass} {rule : Rule}

/-- Statements that are alike, with corresponding tokens everywhere. -/
abbrev Stmts (simulation : Simulation) : Stmt → Stmt → Prop :=
  Stmt.Alike simulation.tokens simulation.tokens

/-! ### Rules -/

/-- The parts of a statement keep two runs in step. -/
structure InStatements (simulation : Simulation) : Prop extends simulation.InExpressions where
  value : ∀ {pass pass'}, simulation.passes .inside pass pass' →
    simulation.passes .value pass pass'
  expression : simulation.InStep .inside (Expr.Alike simulation.tokens) .value Reading.expression
    Reading.expression
  semicolon : ∀ message, simulation.InStep .value simulation.tokens .ended
    (Reading.expect (.mark .semicolon) message) (Reading.expect (.mark .semicolon) message)
  colon : ∀ message, simulation.InStep .inside simulation.tokens .body
    (Reading.expect (.mark .colon) message) (Reading.expect (.mark .colon) message)
  otherwise : ∀ {pass pass'}, simulation.passes .ended pass pass' →
    (Reading.take? [.word .else_] pass = .ok none pass ∧
        Reading.take? [.word .else_] pass' = .ok none pass') ∨
      ∃ token token' next next', Reading.take? [.word .else_] pass = .ok (some token) next ∧
        Reading.take? [.word .else_] pass' = .ok (some token') next' ∧
        simulation.passes .inside next next'

/-- What is to be shown of the beginning of a statement and of the statements inside it. -/
structure AtRule (simulation : Simulation) (rule : Rule) (pass pass' : Pass) : Prop where
  passes : simulation.passes .inside pass pass'
  keyword : rule ≠ .expression → simulation.Outcomes simulation.tokens
    (if rule = .block then .body else .inside) (Reading.advance pass) (Reading.advance pass')
  statement : ∀ {middle middle'}, middle.left < pass.left →
    (∀ opened, middle.statementRule.Opens middle opened → rule.Opens pass opened) →
    simulation.passes .inside middle middle' →
    simulation.Outcomes simulation.Stmts .ended (Reading.statement middle)
      (Reading.statement middle')
  block : ∀ {middle middle'}, rule.Opens pass middle →
    (∀ later, middle.Moves (fun _ => True) later → later.ahead ≠ [] → later.left < pass.left) →
    simulation.passes .body middle middle' →
    simulation.Outcomes (List.Forall₂ simulation.Stmts) .ended (Reading.block middle)
      (Reading.block middle')

namespace InStatements

variable (kept : simulation.InStatements)

include kept

theorem inStep_expressionUnless :
    simulation.InStep .inside (Option.Rel (Expr.Alike simulation.tokens)) .value
      (expressionUnless (.mark .semicolon)) (expressionUnless (.mark .semicolon)) :=
  kept.inStep_unless (by decide) .none kept.value (kept.expression.map .some)

theorem inStep_expressionAfter :
    simulation.InStep .inside (Option.Rel (Expr.Alike simulation.tokens)) .value
      (expressionAfter (.word .be)) (expressionAfter (.word .be)) := by
  refine (kept.take? _ (by decide)).bind fun found => ?_
  cases found with
  | none => exact fun _ _ passes => .ok .none (kept.value passes)
  | some _ => exact kept.expression.bind fun alike => inStep_pure (.some alike)

/-- A semicolon behind a value ends a statement. -/
theorem inStep_terminated {α : Type} {values : α → α → Prop} {reading : Reading α}
    (each : simulation.InStep .inside values .value reading reading) (message : String)
    {result result' : α → Stmt}
    (made : ∀ {value value'}, values value value' →
      simulation.Stmts (result value) (result' value')) :
    simulation.InStep .inside simulation.Stmts .ended
      (do
        let value ← reading
        let _ ← expect (.mark .semicolon) message
        return result value)
      (do
        let value ← reading
        let _ ← expect (.mark .semicolon) message
        return result' value) :=
  each.bind fun alike => (kept.semicolon message).bind fun _ => inStep_pure (made alike)

section Heads

variable (keyword : simulation.Outcomes simulation.tokens .inside (advance pass) (advance pass'))

include keyword

theorem outcomes_guard (opening closing : String) :
    simulation.Outcomes (Expr.Alike simulation.tokens) .inside (guard opening closing pass)
      (guard opening closing pass') :=
  keyword.bind fun _ _ passes => (kept.inStep_expect (by decide) opening).bind (fun _ =>
    kept.inStep_primary.bind fun tests => (kept.inStep_expect (by decide) closing).bind fun _ =>
    inStep_pure tests) passes

theorem outcomes_functionHead :
    simulation.Outcomes
      (fun head head' => simulation.tokens head.1 head'.1 ∧
        List.Forall₂ simulation.tokens head.2 head'.2) .body
      (functionHead pass) (functionHead pass') :=
  keyword.bind fun _ _ passes => (kept.inStep_expect (by decide) _).bind (fun names =>
    (kept.inStep_expect (by decide) _).bind fun _ =>
    (kept.inStep_listed (kept.expect _ (by decide) _)).bind fun parameters =>
    (kept.inStep_expect (by decide) _).bind fun _ => (kept.colon _).bind fun _ =>
    inStep_pure ⟨names, parameters⟩) passes

end Heads

/-- Two runs keep in step in a rule if they do in the statements inside it. -/
theorem outcomes_read (atRule : simulation.AtRule rule pass pass') :
    simulation.Outcomes simulation.Stmts .ended (byRule rule pass) (byRule rule pass') := by
  have keyword (other : rule ≠ .expression) (other' : rule ≠ .block) :
      simulation.Outcomes simulation.tokens .inside (advance pass) (advance pass') := by
    have outcomes := atRule.keyword other
    rwa [if_neg other'] at outcomes
  rw [Rule.byRule_eq]
  cases rule with
  | function =>
    refine (kept.outcomes_functionHead (keyword nofun nofun)).bind fun isHead heads passes => ?_
    have shorter := progress_functionHead.consumes isHead
    refine (atRule.block (.function isHead) (fun later moved _ => ?_) passes).bind
      fun _ bodies passes => .ok (.function heads.1 heads.2 bodies) passes
    exact Nat.lt_of_le_of_lt moved.left_le shorter
  | var =>
    exact (keyword nofun nofun).bind fun _ _ passes => (kept.inStep_expect (by decide) _).bind
      (fun names => kept.inStep_terminated kept.inStep_expressionAfter _ (.var names)) passes
  | ifElse =>
    refine (kept.outcomes_guard (keyword nofun nofun) _ _).bind
      fun {test _ middle _} isHead tests passes => ?_
    have toBody := (progress_guard _ _).consumes isHead
    have bodies := atRule.statement toBody (fun _ opens => .ifThen isHead opens) passes
    refine bodies.bind fun {body _ behind _} isRead bodies passes => ?_
    rcases kept.otherwise passes with ⟨none, none'⟩ | ⟨_, _, last, _, taken, taken', begins⟩
    · rw [bind_of_ok none, bind_of_ok none']
      exact .ok (.ifThen tests bodies) passes
    · have toElse := (forward_statement.done isRead).left_le
      have toOtherwise := left_lt_of_take? taken
      rw [bind_of_ok taken, bind_of_ok taken']
      exact (atRule.statement (by omega) (fun _ opens => .ifElse isHead isRead taken opens)
        begins).bind fun _ others passes => .ok (.ifElse tests bodies others) passes
  | print =>
    exact (keyword nofun nofun).bind fun _ _ passes =>
      kept.inStep_terminated kept.expression _ .print passes
  | returns =>
    exact (keyword nofun nofun).bind fun _ keywords passes =>
      kept.inStep_terminated kept.inStep_expressionUnless _ (.returns keywords) passes
  | whileDo =>
    refine (kept.outcomes_guard (keyword nofun nofun) _ _).bind fun isHead tests passes => ?_
    have toBody := (progress_guard _ _).consumes isHead
    exact (atRule.statement toBody (fun _ opens => .whileDo isHead opens) passes).bind
      fun _ bodies passes => .ok (.whileDo tests bodies) passes
  | block =>
    have opening := atRule.keyword nofun
    refine opening.bind fun advanced _ passes => (atRule.block (.block advanced)
      (fun later moved some => left_lt_of_advance advanced some moved) passes).bind
      fun _ bodies passes => .ok (.block bodies) passes
  | expression => exact kept.inStep_terminated kept.expression _ .expression atRule.passes

end InStatements

/-! ### Programs -/

/-- What else there is in a program keeps two runs in step, so that they can go on behind each
statement, whether it was read or given up. -/
structure InPrograms (simulation : Simulation) : Prop extends simulation.InStatements where
  advance : simulation.InStep .inside simulation.tokens .inside Reading.advance Reading.advance
  opens : ∀ {pass pass'}, simulation.passes .inside pass pass' → simulation.passes .body pass pass'
  begins : ∀ {pass pass'}, simulation.passes .body pass pass' → simulation.passes .inside pass pass'
  goesOn : ∀ {pass pass'}, simulation.passes .ended pass pass' →
    simulation.passes .inside pass pass'
  rules : ∀ {pass pass'}, simulation.passes .inside pass pass' →
    pass.declarationRule = pass'.declarationRule ∧ pass.statementRule = pass'.statementRule
  stops : ∀ {pass pass'}, simulation.passes .inside pass pass' →
    pass.atEnd = pass'.atEnd ∧ pass.endsBody = pass'.endsBody
  dot : ∀ message, simulation.InStep .inside simulation.tokens .ended
    (Reading.expect (.mark .dot) message) (Reading.expect (.mark .dot) message)
  recovers : ∀ {fault fault' next next'}, simulation.faults fault next fault' next' →
    simulation.tokens next.current next'.current ∧ simulation.passes .inside
      (next.reportFault next.current fault).synchronize
      (next'.reportFault next'.current fault').synchronize

/-- Two runs read what is alike and can go on. -/
def Parallel {α : Type} (simulation : Simulation) (values : α → α → Prop)
    (outcome outcome' : α × Pass) : Prop :=
  values outcome.1 outcome'.1 ∧ simulation.passes .inside outcome.2 outcome'.2

theorem parallel_of_stop {stop : Pass → Bool} (halts : Pass.Halts stop)
    (stops : ∀ {pass pass'}, simulation.passes .inside pass pass' → stop pass = stop pass')
    (passes : simulation.passes .inside pass pass') (stopped : stop pass = true) :
    simulation.Parallel (List.Forall₂ simulation.Stmts) (pass.readUntil halts)
      (pass'.readUntil halts) := by
  have stopped' : stop pass' = true := (stops passes).symm.trans stopped
  rw [Pass.readUntil_of_stop halts stopped, Pass.readUntil_of_stop halts stopped']
  exact ⟨.nil, passes⟩

namespace InPrograms

variable (kept : simulation.InPrograms)

include kept

theorem parallel_declaration (passes : simulation.passes .inside pass pass')
    (each : ∀ rule, simulation.Outcomes simulation.Stmts .ended (byRule rule pass)
      (byRule rule pass')) :
    simulation.Parallel simulation.Stmts pass.declaration pass'.declaration := by
  have outcomes := each pass.declarationRule
  unfold Pass.declaration declarationBy
  rw [← (kept.rules passes).1]
  generalize outcome : byRule pass.declarationRule pass = result at outcomes
  generalize outcome' : byRule pass.declarationRule pass' = result' at outcomes
  cases outcomes with
  | ok alike passes =>
    rw [Pass.recover_of_ok outcome, Pass.recover_of_ok outcome']
    exact ⟨alike, kept.goesOn passes⟩
  | error faults =>
    rw [Pass.recover_of_error outcome, Pass.recover_of_error outcome']
    obtain ⟨tokens, passes⟩ := kept.recovers faults
    exact ⟨.error tokens, passes⟩

/-- Declarations one after another are read in step, if each of them is. -/
theorem parallel_readUntil {stop : Pass → Bool} (halts : Pass.Halts stop)
    (stops : ∀ {pass pass'}, simulation.passes .inside pass pass' → stop pass = stop pass')
    (passes : simulation.passes .inside pass pass')
    (each : ∀ {later later'}, pass.Moves (fun _ => True) later → later.ahead ≠ [] →
      simulation.passes .inside later later' → ∀ rule,
      simulation.Outcomes simulation.Stmts .ended (byRule rule later) (byRule rule later')) :
    simulation.Parallel (List.Forall₂ simulation.Stmts) (pass.readUntil halts)
      (pass'.readUntil halts) := by
  induction pass using Pass.declarations_induction generalizing pass' with
  | ended pass ahead =>
    exact parallel_of_stop halts stops passes (halts.ended pass ahead)
  | step pass some inductionHypothesis =>
    have same := stops passes
    cases goes : stop pass with
    | true => exact parallel_of_stop halts stops passes goes
    | false =>
      obtain ⟨first, nexts⟩ := kept.parallel_declaration passes (each (.refl pass) some passes)
      obtain ⟨rest, lasts⟩ := inductionHypothesis nexts fun moved =>
        each ((Pass.moves_declaration pass).trans moved)
      have goes' : stop pass' = false := same.symm.trans goes
      rw [Pass.readUntil_of_goes halts goes, Pass.readUntil_of_goes halts goes']
      exact ⟨.cons first rest, lasts⟩

theorem outcomes_block (passes : simulation.passes .inside pass pass')
    (each : ∀ {later later'}, pass.Moves (fun _ => True) later → later.ahead ≠ [] →
      simulation.passes .inside later later' → ∀ rule,
      simulation.Outcomes simulation.Stmts .ended (byRule rule later) (byRule rule later')) :
    simulation.Outcomes (List.Forall₂ simulation.Stmts) .ended (block pass) (block pass') := by
  obtain ⟨bodies, lasts⟩ := kept.parallel_readUntil Pass.halts_endsBody
    (fun passes => (kept.stops passes).2) passes each
  have first : simulation.Outcomes (List.Forall₂ simulation.Stmts) .inside
      ((modifyGet (Pass.readUntil Pass.halts_endsBody) : Reading (List Stmt)) pass)
      ((modifyGet (Pass.readUntil Pass.halts_endsBody) : Reading (List Stmt)) pass') :=
    .ok bodies lasts
  rw [Pass.block_eq_readUntil]
  exact first.bind fun _ bodies passes => (kept.dot _).bind (fun _ => inStep_pure bodies) passes

/-- Two runs keep in step in every rule. -/
theorem inStep_byRule (rule : Rule) :
    simulation.InStep .inside simulation.Stmts .ended (byRule rule) (byRule rule) := by
  intro pass pass' passes
  induction length : pass.left using Nat.strongRecOn generalizing rule pass pass' with
  | ind length inductionHypothesis =>
    subst length
    refine kept.outcomes_read ⟨passes, fun _ => ?_, fun {middle _} shorter _ passes => ?_,
      fun _ shorter passes => kept.outcomes_block (kept.begins passes) fun moved some passes rule =>
        inductionHypothesis _ (shorter _ moved some) rule passes rfl⟩
    · have advanced := kept.advance passes
      split
      · exact advanced.mono kept.opens
      · exact advanced
    · have same := (kept.rules passes).2
      rw [statement, statementBy, statementBy, ← same]
      exact inductionHypothesis _ shorter middle.statementRule passes rfl

theorem inStep_statement :
    simulation.InStep .inside simulation.Stmts .ended statement statement := by
  intro pass pass' passes
  rw [statement, statementBy, statementBy, ← (kept.rules passes).2]
  exact kept.inStep_byRule _ passes

theorem inStep_block :
    simulation.InStep .inside (List.Forall₂ simulation.Stmts) .ended block block :=
  fun _ _ passes => kept.outcomes_block passes fun _ _ passes rule => kept.inStep_byRule rule passes

theorem parallel_declarations (passes : simulation.passes .inside pass pass') :
    simulation.Parallel (List.Forall₂ simulation.Stmts) pass.declarations pass'.declarations :=
  kept.parallel_readUntil Pass.halts_atEnd (fun passes => (kept.stops passes).1) passes
    fun _ _ passes rule => kept.inStep_byRule rule passes

end InPrograms

end Simulation

end Parlance
