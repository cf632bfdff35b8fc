/-
This file follows two runs that read in step. A simulation says what the two have in common: which
of their tokens correspond, in which pairs of passes they are, as far as this depends on the stage
in a statement, and with which pairs of failures they stop. If the primitive readings keep to it,
then every reading of an expression does: both runs give values that are alike, or both fail. So the
way through the levels of an expression is gone once, and whatever is to be kept on this way is a
simulation. What one run keeps by itself is one too, that of the run with itself.
-/

import Parlance.Proofs.Likeness

namespace Parlance

/-- The stages in a program that are told apart. -/
inductive Stage where
  /-- Inside a statement or in front of it. -/
  | inside
  /-- In front of an item of a list that has been checked for its length. -/
  | item
  /-- Behind a value, in front of the semicolon that ends the statement. -/
  | value
  /-- In front of the declarations of a body. -/
  | body
  /-- Behind a statement. -/
  | ended

/-- What two runs have in common. -/
structure Simulation where
  /-- Which tokens correspond. -/
  tokens : Token → Token → Prop
  /-- In which passes the two runs are at a stage. -/
  passes : Stage → Pass → Pass → Prop
  /-- With which faults they fail, and in which passes. -/
  faults : Fault → Pass → Fault → Pass → Prop

/-- The kinds of token that are asked for one after another in an expression. -/
def Kind.choices : List (List Kind) :=
  [[.mark .comma], [.mark .emDash], [.word .not], equalities, [.word .and], [.word .or],
    [.word .be]]

namespace Simulation

variable {simulation : Simulation} {α β : Type} {values : α → α → Prop} {values' : β → β → Prop}
  {before stage after : Stage} {pass pass' : Pass} {reading reading' : Reading α}

/-! ### Outcomes in common -/

/-- Two outcomes with values that are alike and passes at a stage, or two failures. -/
inductive Outcomes (simulation : Simulation) (values : α → α → Prop) (stage : Stage) :
    Outcome α → Outcome α → Prop
  | ok {value value' next next'} : values value value' → simulation.passes stage next next' →
      Outcomes simulation values stage (.ok value next) (.ok value' next')
  | error {fault fault' next next'} : simulation.faults fault next fault' next' →
      Outcomes simulation values stage (.error fault next) (.error fault' next')

/-- Two readings that lead from one stage to another, in any two passes in common. -/
def InStep (simulation : Simulation) (before : Stage) (values : α → α → Prop) (after : Stage)
    (reading reading' : Reading α) : Prop :=
  ∀ ⦃pass pass'⦄, simulation.passes before pass pass' →
    simulation.Outcomes values after (reading pass) (reading' pass')

theorem inStep_pure {value value' : α} (alike : values value value') :
    simulation.InStep stage values stage (pure value) (pure value') :=
  fun _ _ passes => .ok alike passes

/-- More may be at one stage than at another. -/
theorem Outcomes.mono {outcome outcome' : Outcome α}
    (outcomes : simulation.Outcomes values stage outcome outcome')
    (more : ∀ {next next'}, simulation.passes stage next next' →
      simulation.passes after next next') :
    simulation.Outcomes values after outcome outcome' := by
  cases outcomes with
  | ok alike passes => exact .ok alike (more passes)
  | error faults => exact .error faults

/-- What follows need only keep in step where it begins. -/
theorem Outcomes.bind {continuation continuation' : α → Reading β}
    (first : simulation.Outcomes values stage (reading pass) (reading' pass'))
    (second : ∀ {value value' next next'}, reading pass = .ok value next → values value value' →
      simulation.passes stage next next' →
      simulation.Outcomes values' after (continuation value next) (continuation' value' next')) :
    simulation.Outcomes values' after ((reading >>= continuation) pass)
      ((reading' >>= continuation') pass') := by
  generalize outcome : reading pass = result at first
  generalize outcome' : reading' pass' = result' at first
  cases first with
  | ok alike passes =>
    rw [Reading.bind_of_ok outcome, Reading.bind_of_ok outcome']
    exact second outcome alike passes
  | error faults =>
    rw [Reading.bind_of_error outcome, Reading.bind_of_error outcome']
    exact .error faults

theorem InStep.bind {continuation continuation' : α → Reading β}
    (first : simulation.InStep before values stage reading reading')
    (second : ∀ {value value'}, values value value' →
      simulation.InStep stage values' after (continuation value) (continuation' value')) :
    simulation.InStep before values' after (reading >>= continuation)
      (reading' >>= continuation') :=
  fun _ _ passes => (first passes).bind fun _ alike passes => second alike passes

/-- The same is made of two values. -/
theorem InStep.map {result result' : α → β}
    (first : simulation.InStep before values stage reading reading')
    (maps : ∀ {value value'}, values value value' → values' (result value) (result' value')) :
    simulation.InStep before values' stage (result <$> reading) (result' <$> reading') := by
  rw [← bind_pure_comp, ← bind_pure_comp]
  exact first.bind fun alike => inStep_pure (maps alike)

/-- A recursion is in step if its body is, given that its calls are. -/
theorem inStep_recursion {σ : Type} {recursion : Recursion σ α} (states : σ → σ → Prop)
    (fails : ∀ {pass pass'}, simulation.passes before pass pass' → simulation.faults
      (pass.current.fault (.noExpression pass.current.value)) pass
      (pass'.current.fault (.noExpression pass'.current.value)) pass')
    (step : ∀ again isSound,
      (∀ {state state'}, states state state' →
        simulation.InStep before values after (again state) (again state')) →
      ∀ {state state'}, states state state' → simulation.InStep before values after
        (recursion.body again isSound state) (recursion.body again isSound state'))
    {state state' : σ} (start : states state state') :
    simulation.InStep before values after (recursion.read state) (recursion.read state') := by
  have each (count : Nat) {state state' : σ} (start : states state state') :
      simulation.InStep before values after ((recursion.rounds count).1 state)
        ((recursion.rounds count).1 state') := by
    induction count generalizing state state' with
    | zero => exact fun _ _ passes => .error (fails passes)
    | succ count inductionHypothesis => exact step _ _ inductionHypothesis start
  -- The two runs may have different numbers of tokens left.
  intro pass pass' passes
  rw [recursion.read_eq_rounds state (Nat.le_max_left pass.left pass'.left),
    recursion.read_eq_rounds state' (Nat.le_max_right pass.left pass'.left)]
  exact each _ start passes

/-! ### Expressions -/

/-- The primitives in an expression keep two runs in step. -/
structure InExpressions (simulation : Simulation) : Prop where
  noExpression : ∀ {pass pass'}, simulation.passes .inside pass pass' → simulation.faults
    (pass.current.fault (.noExpression pass.current.value)) pass
    (pass'.current.fault (.noExpression pass'.current.value)) pass'
  check : ∀ {pass pass'}, simulation.passes .inside pass pass' →
    ∀ kind ∈ [.mark .emDash, .mark .semicolon], pass.check kind = pass'.check kind
  take? : ∀ kinds ∈ Kind.choices, simulation.InStep .inside (Option.Rel simulation.tokens) .inside
    (Reading.take? kinds) (Reading.take? kinds)
  item : ∀ {pass pass'}, simulation.passes .inside pass pass' →
    simulation.passes .item pass pass'
  overlong : ∀ {pass pass'} what, simulation.passes .inside pass pass' →
    simulation.passes .item (pass.report pass.current (.tooMany what maxArity))
      (pass'.report pass'.current (.tooMany what maxArity))
  primary : simulation.InStep .item (Expr.Alike simulation.tokens) .inside Reading.primary
    Reading.primary
  expect : ∀ kind ∈ [.identifier, .mark .emDash], ∀ message, simulation.InStep .item
    simulation.tokens .inside (Reading.expect kind message) (Reading.expect kind message)

namespace InExpressions

variable (kept : simulation.InExpressions)

include kept

theorem inStep_primary :
    simulation.InStep .inside (Expr.Alike simulation.tokens) .inside Reading.primary
      Reading.primary :=
  fun _ _ passes => kept.primary (kept.item passes)

theorem inStep_expect {kind : Kind} (member : kind ∈ [.identifier, .mark .emDash])
    (message : String) :
    simulation.InStep .inside simulation.tokens .inside (Reading.expect kind message)
      (Reading.expect kind message) :=
  fun _ _ passes => kept.expect kind member message (kept.item passes)

theorem inStep_noteArity (what : String) (count : Nat) :
    simulation.InStep .inside (fun _ _ => True) .item (Reading.noteArity what count)
      (Reading.noteArity what count) := by
  intro pass pass' passes
  unfold Reading.noteArity
  split
  · exact .ok trivial (kept.overlong what passes)
  · exact .ok trivial (kept.item passes)

/-- Both runs find a kind, or neither does. -/
theorem inStep_unless {kind : Kind} (member : kind ∈ [.mark .emDash, .mark .semicolon]) {value : α}
    (alike : values value value) (ends : ∀ {pass pass'}, simulation.passes .inside pass pass' →
      simulation.passes after pass pass')
    (otherwise : simulation.InStep .inside values after reading reading') :
    simulation.InStep .inside values after
      (fun pass => if pass.check kind then .ok value pass else reading pass)
      (fun pass => if pass.check kind then .ok value pass else reading' pass) := by
  intro pass pass' passes
  show simulation.Outcomes values after (if pass.check kind then _ else _)
    (if pass'.check kind then _ else _)
  rw [kept.check passes kind member]
  split
  · exact .ok alike (ends passes)
  · exact otherwise passes

theorem inStep_listed {what : String} {item : Reading α} {forward : item.Forward (· ∈ Kind.inner)}
    (each : simulation.InStep .item values .inside item item) :
    simulation.InStep .inside (List.Forall₂ values) .inside (Reading.listed what item forward)
      (Reading.listed what item forward) := by
  refine kept.inStep_unless (by decide) .nil id (inStep_recursion Eq kept.noExpression
    (fun again _ inductionHypothesis {count _} same => ?_) rfl)
  subst same
  refine (kept.inStep_noteArity what count).bind fun _ => each.bind fun first =>
    (kept.take? _ (by decide)).bind fun commas => ?_
  cases commas with
  | none => exact inStep_pure (.cons first .nil)
  | some _ => exact (inductionHypothesis rfl).bind fun rest => inStep_pure (.cons first rest)

theorem inStep_callsOn {callee callee' : Expr}
    (callees : Expr.Alike simulation.tokens callee callee') :
    simulation.InStep .inside (Expr.Alike simulation.tokens) .inside (Reading.callsOn callee)
      (Reading.callsOn callee') := by
  refine inStep_recursion _ kept.noExpression (fun again _ inductionHypothesis {_ _} callees => ?_)
    callees
  refine (kept.take? _ (by decide)).bind fun dashes => ?_
  cases dashes with
  | none => exact inStep_pure callees
  | some _ =>
    exact (kept.inStep_listed kept.primary).bind fun arguments =>
      (kept.inStep_expect (by decide) _).bind fun parens =>
        inductionHypothesis (.call callees arguments parens)

theorem inStep_call :
    simulation.InStep .inside (Expr.Alike simulation.tokens) .inside Reading.call Reading.call :=
  kept.inStep_primary.bind fun callees => kept.inStep_callsOn callees

theorem inStep_unary :
    simulation.InStep .inside (Expr.Alike simulation.tokens) .inside Reading.unary
      Reading.unary := by
  refine inStep_recursion Eq kept.noExpression
    (fun again _ inductionHypothesis {_ _} _ => ?_) rfl
  refine (kept.take? _ (by decide)).bind fun operators => ?_
  cases operators with
  | none => exact kept.inStep_call
  | some operators =>
    exact (inductionHypothesis rfl).bind fun rights => inStep_pure (.unary operators rights)

section Chains

variable {operators : List Kind} {inside : ∀ kind ∈ operators, kind ∈ Kind.inner}
  {join : Expr → Token → Expr → Expr} {operand : Reading Expr}
  {progress : operand.Progress (· ∈ Kind.inner)}

theorem inStep_chain (member : operators ∈ Kind.choices)
    (joins : ∀ {left left' operator operator' right right'},
      Expr.Alike simulation.tokens left left' → simulation.tokens operator operator' →
      Expr.Alike simulation.tokens right right' →
      Expr.Alike simulation.tokens (join left operator right) (join left' operator' right'))
    (operands : simulation.InStep .inside (Expr.Alike simulation.tokens) .inside operand operand) :
    simulation.InStep .inside (Expr.Alike simulation.tokens) .inside
      (Reading.chain operators inside join operand progress)
      (Reading.chain operators inside join operand progress) := by
  refine operands.bind fun lefts => inStep_recursion _ kept.noExpression
    (fun again _ inductionHypothesis {_ _} lefts => ?_) lefts
  refine (kept.take? operators member).bind fun found => ?_
  cases found with
  | none => exact inStep_pure lefts
  | some found => exact operands.bind fun rights => inductionHypothesis (joins lefts found rights)

end Chains

theorem inStep_equality :
    simulation.InStep .inside (Expr.Alike simulation.tokens) .inside Reading.equality
      Reading.equality :=
  kept.inStep_chain (by decide) .binary kept.inStep_unary

theorem inStep_conjunction :
    simulation.InStep .inside (Expr.Alike simulation.tokens) .inside Reading.conjunction
      Reading.conjunction :=
  kept.inStep_chain (by decide) .logical kept.inStep_equality

theorem inStep_disjunction :
    simulation.InStep .inside (Expr.Alike simulation.tokens) .inside Reading.disjunction
      Reading.disjunction :=
  kept.inStep_chain (by decide) .logical kept.inStep_conjunction

end InExpressions

/-! ### Assignments -/

/-- Reports of targets keep two runs in step too. -/
structure InAssignments (simulation : Simulation) : Prop extends simulation.InExpressions where
  value : ∀ {pass pass'}, simulation.passes .inside pass pass' →
    simulation.passes .value pass pass'
  badTarget : ∀ {pass pass' be be'}, simulation.passes .value pass pass' →
    simulation.tokens be be' → be.kind = .word .be → be ∈ pass.behind →
    simulation.passes .value (pass.report be .badTarget) (pass'.report be' .badTarget)

namespace InAssignments

variable (kept : simulation.InAssignments)

include kept

theorem outcomes_assigned {target target' value value' : Expr} {be be' : Token}
    (passes : simulation.passes .value pass pass') (bes : simulation.tokens be be')
    (isBe : be.kind = .word .be) (read : be ∈ pass.behind)
    (targets : Expr.Alike simulation.tokens target target')
    (alike : Expr.Alike simulation.tokens value value') :
    simulation.Outcomes (Expr.Alike simulation.tokens) .value
      (Reading.assigned target be value pass) (Reading.assigned target' be' value' pass') := by
  cases targets with
  | name names => exact .ok (.assign names alike) passes
  | _ => exact .ok alike (kept.badTarget passes bes isBe read)

theorem inStep_expression :
    simulation.InStep .inside (Expr.Alike simulation.tokens) .value Reading.expression
      Reading.expression := by
  refine inStep_recursion Eq kept.noExpression
    (fun again isSound inductionHypothesis {_ _} _ => ?_) rfl
  refine kept.inStep_disjunction.bind fun targets pass pass' passes =>
    (kept.take? _ (by decide) passes).bind fun {found _ middle _} taken bes passes => ?_
  cases bes with
  | none => exact .ok targets (kept.value passes)
  | some bes =>
    obtain ⟨reads, isBe⟩ := Reading.take?_eq_some_ok_iff.mp taken
    refine (inductionHypothesis rfl passes).bind fun done alike passes => ?_
    obtain ⟨tokens, reports, valueReads, -⟩ := (isSound () middle).done done
    refine kept.outcomes_assigned passes bes (List.mem_singleton.mp isBe) ?_ targets alike
    rw [valueReads.behind, reads.behind]
    exact List.mem_append_right _ List.mem_cons_self

end InAssignments

end Simulation

end Parlance
