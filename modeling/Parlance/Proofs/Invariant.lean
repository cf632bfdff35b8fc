/-
This file is about what a single run keeps. An invariant says of a pass what holds at each stage of
a statement, and of a failure what holds when it is found. It is the simulation of a run by itself,
and here it is said what an invariant has to be kept by: by each token that is read, by the reports
that are made on the way, and, where statements follow one another, by what is done after a failure.
-/

import Parlance.Proofs.Rules

namespace Parlance

open Reading

/-- The causes for which reading can fail at a token. -/
inductive Cause.Found (token : Token) : Cause → Prop
  | missing (message : String) : Found token (.missing token.value message)
  | noExpression : Found token (.noExpression token.value)
  | refused {cause} : token.primary = .error cause → Found token cause

theorem Cause.Found.fatal {token : Token} {cause : Cause} (found : cause.Found token) :
    cause.fatal = true := by
  cases found with
  | missing message => rfl
  | noExpression => rfl
  | refused refused => exact fatal_of_primary refused

/-- What is kept by a run. -/
structure Invariant where
  /-- What holds of a pass at a stage. -/
  holds : Stage → Pass → Prop
  /-- What holds of a failure and the pass in which it is found. -/
  fails : Fault → Pass → Prop

namespace Invariant

variable {invariant : Invariant} {α : Type} {values : α → α → Prop} {before stage : Stage}
  {pass next : Pass} {reading : Reading α} {value : α} {fault : Fault}

/-- The run by itself. -/
def simulation (invariant : Invariant) : Simulation where
  tokens := Eq
  passes stage pass pass' := pass = pass' ∧ invariant.holds stage pass
  faults fault pass fault' pass' := fault = fault' ∧ pass = pass' ∧ invariant.fails fault pass

theorem outcomes_self {outcome : Outcome α} (self : ∀ value, values value value)
    (done : ∀ {value next}, outcome = .ok value next → invariant.holds stage next)
    (failed : ∀ {fault next}, outcome = .error fault next → invariant.fails fault next) :
    invariant.simulation.Outcomes values stage outcome outcome := by
  cases outcome with
  | ok value next => exact .ok (self value) ⟨rfl, done rfl⟩
  | error fault next => exact .error ⟨rfl, rfl, failed rfl⟩

theorem inStep_self (self : ∀ value, values value value)
    (done : ∀ {pass value next}, invariant.holds before pass → reading pass = .ok value next →
      invariant.holds stage next)
    (failed : ∀ {pass fault next}, invariant.holds before pass → reading pass = .error fault next →
      invariant.fails fault next) :
    invariant.simulation.InStep before values stage reading reading := by
  rintro pass _ ⟨rfl, holds⟩
  exact outcomes_self self (done holds) (failed holds)

theorem holds_of_outcomes
    (outcomes : invariant.simulation.Outcomes values stage (reading pass) (reading pass))
    (done : reading pass = .ok value next) : invariant.holds stage next := by
  rw [done] at outcomes
  cases outcomes with
  | ok _ passes => exact passes.2

theorem fails_of_outcomes
    (outcomes : invariant.simulation.Outcomes values stage (reading pass) (reading pass))
    (failed : reading pass = .error fault next) : invariant.fails fault next := by
  rw [failed] at outcomes
  cases outcomes with
  | error faults => exact faults.2.2

/-! ### Expressions -/

/-- What an invariant has to be kept by in an expression, up to the targets of assignments. -/
structure InExpressions (invariant : Invariant) : Prop where
  item : ∀ {pass}, invariant.holds .inside pass → invariant.holds .item pass
  token : ∀ {pass token next}, invariant.holds .item pass → pass.Reads [token] [] next →
    invariant.holds .inside next
  overlong : ∀ {pass} what, invariant.holds .inside pass →
    invariant.holds .item (pass.report pass.current (.tooMany what maxArity))
  fails : ∀ {pass cause}, invariant.holds .item pass → cause.Found pass.current →
    invariant.fails (pass.current.fault cause) pass

namespace InExpressions

variable (kept : invariant.InExpressions)

include kept

theorem inStep_take? (kinds : List Kind) :
    invariant.simulation.InStep .inside (Option.Rel Eq) .inside (take? kinds) (take? kinds) := by
  refine inStep_self (fun found => ?_) (fun {_ found _} holds taken => ?_)
    fun _ failed => absurd failed take?_ne_error
  · cases found with
    | none => exact .none
    | some token => exact .some rfl
  · cases found with
    | none => exact (take?_eq_none_ok_iff.mp taken).1 ▸ holds
    | some token => exact kept.token (kept.item holds) (take?_eq_some_ok_iff.mp taken).1

theorem inStep_expect (kind : Kind) (message : String)
    (goesOn : ∀ {pass}, invariant.holds .inside pass → invariant.holds stage pass) :
    invariant.simulation.InStep .item Eq stage (expect kind message) (expect kind message) := by
  refine inStep_self (fun _ => rfl) (fun holds done => ?_) fun holds failed => ?_
  · exact goesOn (kept.token holds (expect_eq_ok_iff.mp done).1)
  · obtain ⟨-, rfl, rfl⟩ := expect_eq_error_iff.mp failed
    exact kept.fails holds (.missing message)

theorem toSimulation : invariant.simulation.InExpressions where
  noExpression := by
    rintro pass _ ⟨rfl, holds⟩
    exact ⟨rfl, rfl, kept.fails (kept.item holds) .noExpression⟩
  check := by
    rintro pass _ ⟨rfl, -⟩ kind -
    rfl
  take? kinds _ := kept.inStep_take? kinds
  item := by
    rintro pass _ ⟨rfl, holds⟩
    exact ⟨rfl, kept.item holds⟩
  overlong := by
    rintro pass _ what ⟨rfl, holds⟩
    exact ⟨rfl, kept.overlong what holds⟩
  primary := by
    refine inStep_self (Expr.Alike.refl fun _ => rfl) (fun holds done => ?_) fun holds failed => ?_
    · obtain ⟨token, reads, -⟩ := primary_eq_ok_iff.mp done
      exact kept.token holds reads
    · obtain ⟨rfl, cause, refused, rfl⟩ := primary_eq_error_iff.mp failed
      exact kept.fails holds (.refused refused)
  expect kind _ message := kept.inStep_expect kind message id

theorem inStep_advance :
    invariant.simulation.InStep .inside Eq .inside advance advance := by
  refine inStep_self (fun _ => rfl) (fun {pass _ _} holds done => ?_)
    fun _ failed => by cases failed
  cases ahead : pass.ahead with
  | nil =>
    rw [advance_of_nil ahead] at done
    cases done
    exact holds
  | cons token rest => exact kept.token (kept.item holds) (reads_of_advance ahead done).2

end InExpressions

/-- An invariant that is also kept by reports of targets, which have been read. -/
structure InAssignments (invariant : Invariant) : Prop extends invariant.InExpressions where
  value : ∀ {pass}, invariant.holds .inside pass → invariant.holds .value pass
  badTarget : ∀ {pass be}, invariant.holds .value pass → be.kind = .word .be → be ∈ pass.behind →
    invariant.holds .value (pass.report be .badTarget)

theorem InAssignments.toSimulation (kept : invariant.InAssignments) :
    invariant.simulation.InAssignments where
  toInExpressions := kept.toInExpressions.toSimulation
  value := by
    rintro pass _ ⟨rfl, holds⟩
    exact ⟨rfl, kept.value holds⟩
  badTarget := by
    rintro pass _ be _ ⟨rfl, holds⟩ rfl isBe read
    exact ⟨rfl, kept.badTarget holds isBe read⟩

/-! ### Statements -/

/-- What an invariant has to be kept by in a statement. -/
structure InStatements (invariant : Invariant) : Prop extends invariant.InExpressions where
  value : ∀ {pass}, invariant.holds .inside pass → invariant.holds .value pass
  expression : invariant.simulation.InStep .inside (Expr.Alike Eq) .value Reading.expression
    Reading.expression
  semicolon : ∀ {pass token next}, invariant.holds .value pass → pass.Reads [token] [] next →
    token.kind = .mark .semicolon → invariant.holds .ended next
  noSemicolon : ∀ {pass} message, invariant.holds .value pass →
    invariant.fails (pass.current.fault (.missing pass.current.value message)) pass
  body : ∀ {pass}, invariant.holds .inside pass → invariant.holds .body pass
  goesOn : ∀ {pass}, invariant.holds .ended pass → invariant.holds .inside pass

namespace InStatements

variable (kept : invariant.InStatements)

include kept

theorem inStep_semicolon (message : String) :
    invariant.simulation.InStep .value Eq .ended (expect (.mark .semicolon) message)
      (expect (.mark .semicolon) message) := by
  refine inStep_self (fun _ => rfl) (fun holds done => ?_) fun holds failed => ?_
  · obtain ⟨reads, isSemicolon⟩ := expect_eq_ok_iff.mp done
    exact kept.semicolon holds reads isSemicolon
  · obtain ⟨-, rfl, rfl⟩ := expect_eq_error_iff.mp failed
    exact kept.noSemicolon message holds

theorem toSimulation : invariant.simulation.InStatements where
  toInExpressions := kept.toInExpressions.toSimulation
  value := by
    rintro pass _ ⟨rfl, holds⟩
    exact ⟨rfl, kept.value holds⟩
  expression := kept.expression
  semicolon := kept.inStep_semicolon
  colon message := by
    rintro pass _ ⟨rfl, holds⟩
    exact kept.inStep_expect _ message kept.body ⟨rfl, kept.item holds⟩
  otherwise := by
    rintro pass _ ⟨rfl, holds⟩
    cases taken : take? [.word .else_] pass with
    | error => exact absurd taken take?_ne_error
    | ok found next =>
      cases found with
      | none =>
        obtain ⟨rfl, -⟩ := take?_eq_none_ok_iff.mp taken
        exact .inl ⟨rfl, rfl⟩
      | some token =>
        have reads := (take?_eq_some_ok_iff.mp taken).1
        have begins := kept.token (kept.item (kept.goesOn holds)) reads
        exact .inr ⟨token, token, next, next, rfl, rfl, rfl, begins⟩

end InStatements

/-- What an invariant has to be kept by in a program. -/
structure InPrograms (invariant : Invariant) : Prop extends invariant.InStatements where
  begins : ∀ {pass}, invariant.holds .body pass → invariant.holds .inside pass
  ended : ∀ {pass}, invariant.holds .inside pass → invariant.holds .ended pass
  recovers : ∀ {fault pass}, invariant.fails fault pass →
    invariant.holds .inside (pass.reportFault pass.current fault).synchronize

namespace InPrograms

variable (kept : invariant.InPrograms)

include kept

theorem toSimulation : invariant.simulation.InPrograms where
  toInStatements := kept.toInStatements.toSimulation
  advance := kept.inStep_advance
  opens := by
    rintro pass _ ⟨rfl, holds⟩
    exact ⟨rfl, kept.body holds⟩
  begins := by
    rintro pass _ ⟨rfl, holds⟩
    exact ⟨rfl, kept.begins holds⟩
  goesOn := by
    rintro pass _ ⟨rfl, holds⟩
    exact ⟨rfl, kept.goesOn holds⟩
  rules := by
    rintro pass _ ⟨rfl, -⟩
    exact ⟨rfl, rfl⟩
  stops := by
    rintro pass _ ⟨rfl, -⟩
    exact ⟨rfl, rfl⟩
  dot message := by
    rintro pass _ ⟨rfl, holds⟩
    exact kept.inStep_expect _ message kept.ended ⟨rfl, kept.item holds⟩
  recovers := by
    rintro fault _ pass _ ⟨rfl, rfl, fails⟩
    exact ⟨rfl, rfl, kept.recovers fails⟩

/-- Reading a program keeps an invariant. -/
theorem holds_declarations (holds : invariant.holds .inside pass) :
    invariant.holds .inside pass.declarations.2 :=
  (kept.toSimulation.parallel_declarations ⟨rfl, holds⟩).2.2

end InPrograms

end Invariant

end Parlance
