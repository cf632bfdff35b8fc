/-
This file describes a value behind any number of targets, each with `be` behind it, as a whole. Such
a chain is read to its end before any of it is joined, and it is joined from the right: a target
that is a variable takes the value that stands for what follows, and any other target is dropped. So
the reports about the operands come first, in the order of the source, and those about the targets
behind them, from right to left; and where an operand cannot be read no target is reported at all.
-/

import Parlance.Proofs.Completeness
import Parlance.Proofs.Minor

namespace Parlance

open Grammar

/-! ### Targets -/

/-- What stands in front of a value: an operand and the token `be` behind it. -/
structure Target where
  tokens : List Token
  expr : Expr
  notes : List Note
  derived : Disjunction tokens expr notes
  be : Token
  isBe : be.kind = .word .be

namespace Target

/-- All tokens of a target. -/
def source (target : Target) : List Token :=
  target.tokens ++ [target.be]

/-- Whether a target is a variable, and nothing else. -/
def isVariable (target : Target) : Bool :=
  match target.expr with
  | .name _ => true
  | _ => false

/-- What stands for a target and the value behind it: an assignment if the target is a variable, and
otherwise the value. -/
def assign (target : Target) (value : Expr) : Expr :=
  match target.expr with
  | .name name => .assign name value
  | _ => value

/-- The targets that are no variables, the last one first. -/
def refused (targets : List Target) : List Target :=
  (targets.filter (!·.isVariable)).reverse

/-- The report about a target that is no variable. -/
def report (target : Target) : Diagnostic :=
  ⟨target.be, target.be.fault .badTarget⟩

theorem reports_map_be (targets : List Target) :
    reports (targets.map fun target => .target target.be) = targets.map report := by
  rw [reports, List.flatMap_map]
  exact List.flatMap_pure_eq_map report targets

theorem refused_cons (target : Target) (rest : List Target) :
    refused (target :: rest) = refused rest ++ if target.isVariable then [] else [target] := by
  rw [refused, List.filter_cons]
  cases target.isVariable with
  | true => exact (List.append_nil _).symm
  | false => exact List.reverse_cons

/-- A target is a single name that takes the value, or it is dropped. -/
theorem variable_or_dropped (target : Target) :
    (∃ name, target.tokens = [name] ∧ name.kind = .identifier ∧ target.notes = [] ∧
      target.isVariable = true ∧ ∀ value, target.assign value = .assign name value) ∨
    (∀ name, target.expr ≠ .name name) ∧ target.isVariable = false ∧
      ∀ value, target.assign value = value := by
  obtain ⟨tokens, expr, notes, derived, be, isBe⟩ := target
  cases expr with
  | name name =>
    obtain ⟨rfl, isName, rfl⟩ := derived.eq_of_name
    exact .inl ⟨name, rfl, isName, rfl, rfl, fun _ => rfl⟩
  | _ => exact .inr ⟨fun _ => Expr.noConfusion, rfl, fun _ => rfl⟩

/-- Targets with an operand behind them are a value of the lenient grammar. Its notes are those of
the operands and behind them those of the targets, from right to left. -/
theorem assignment {tokens : List Token} {value : Expr} {notes : List Note}
    (derived : Disjunction tokens value notes) (targets : List Target) :
    Assignment .full (targets.flatMap source ++ tokens) (targets.foldr assign value)
      (targets.flatMap Target.notes ++ notes ++
        (refused targets).map fun target => .target target.be) := by
  induction targets with
  | nil =>
    rw [List.flatMap_nil, List.flatMap_nil, List.nil_append, List.nil_append]
    exact .value ((List.append_nil notes).symm ▸ derived)
  | cons target rest inductionHypothesis =>
    rw [List.flatMap_cons, List.flatMap_cons, List.foldr_cons, refused_cons, source]
    rcases target.variable_or_dropped with
      ⟨name, tokens, isName, notes, isVariable, assigned⟩ | ⟨noName, notVariable, assigned⟩
    · have made := Assignment.assign isName target.isBe inductionHypothesis
      simpa [tokens, notes, isVariable, assigned] using made
    · have made := Assignment.dropped trivial target.derived noName target.isBe inductionHypothesis
      simpa [notVariable, assigned] using made

theorem allAllowed (targets : List Target) :
    AllAllowed .strict (targets.flatMap Target.notes) := by
  intro note member
  obtain ⟨target, -, isNote⟩ := List.mem_flatMap.mp member
  exact target.derived.allAllowed note isNote

end Target

/-! ### Chains of assignments -/

namespace Reading

/-- Where no operand can be read behind some targets, the whole cannot be read. -/
theorem expression_of_failed {targets : List Target} {pass middle : Pass}
    (reads : pass.Reads (targets.flatMap Target.source) (reports (targets.flatMap Target.notes))
      middle) {fault : Fault} {next : Pass} (failed : disjunction middle = .error fault next) :
    expression pass = .error fault next := by
  induction targets generalizing pass with
  | nil =>
    obtain rfl := reads.unique (Pass.Reads.refl pass)
    rw [expression_eq]
    exact bind_of_error failed
  | cons target rest inductionHypothesis =>
    rw [List.flatMap_cons, List.flatMap_cons, reports_append] at reads
    obtain ⟨behind, targetReads, restReads⟩ := reads.split
    obtain ⟨last, operandReads, beReads⟩ := targetReads.unsnoc
    have clear : last.Clear disjunctionFollow :=
      Pass.clear_of_ahead beReads.ahead (by rw [target.isBe]; decide)
    have taken := take?_eq_some_ok_iff.mpr ⟨beReads, List.mem_singleton.mpr target.isBe⟩
    rw [expression_eq, bind_of_ok (accepts_disjunction target.derived operandReads clear),
      bind_of_ok taken]
    exact bind_of_error (inductionHypothesis restReads)

/-- Operands with `be` between them are read from the first to the last, unless the token behind
them goes on with the last one, and nothing else is read. They are joined from the right: each
variable takes what stands for the operands behind it, and any other target is dropped. Of the
reports, those of argument lists that are too long come first, in the order of the source, and then
come those of the targets that are no variables, each at its `be` and from right to left. Where
instead no operand can be read behind some targets, the whole is given up and none of the targets is
reported. -/
theorem expression_of_targets (targets : List Target) (pass : Pass) (rest : List Token) :
    (∀ {tokens value notes}, Disjunction tokens value notes →
      pass.ahead = targets.flatMap Target.source ++ tokens ++ rest →
      (∀ token ∈ rest.head?, token.kind ∉
        [.word .be, .mark .emDash, .word .or, .word .and] ++ Kind.equalities) →
      ∃ (lists : List (String × List Token)) (next : Pass),
        targets.flatMap Target.notes ++ notes = lists.map (fun entry => .items entry.1 entry.2) ∧
        expression pass = .ok (targets.foldr Target.assign value) next ∧
        pass.Reads (targets.flatMap Target.source ++ tokens)
          ((lists.filterMap fun entry => overlong? entry.1 entry.2) ++
            (Target.refused targets).map Target.report) next) ∧
    (pass.ahead = targets.flatMap Target.source ++ rest →
      ∃ (lists : List (String × List Token)) (middle : Pass),
        targets.flatMap Target.notes = lists.map (fun entry => .items entry.1 entry.2) ∧
        pass.Reads (targets.flatMap Target.source)
          (lists.filterMap fun entry => overlong? entry.1 entry.2) middle ∧
        ∀ fault next, disjunction middle = .error fault next →
          expression pass = .error fault next ∧
          ∃ read reports, pass.Reads read reports next ∧
            ∀ report ∈ reports, ∃ what, report.fault.cause = .tooMany what maxArity) := by
  refine ⟨fun {tokens value notes} derived ahead follow => ?_, fun ahead => ?_⟩
  · have operands : AllAllowed .strict (targets.flatMap Target.notes ++ notes) :=
      allAllowed_append.mpr ⟨Target.allAllowed targets, derived.allAllowed⟩
    obtain ⟨lists, listed⟩ := exists_lists operands
    have whole := Target.assignment derived targets
    obtain ⟨next, reads, left⟩ := Pass.Reads.exists_of_ahead ahead (reports
      (targets.flatMap Target.notes ++ notes ++
        (Target.refused targets).map fun target => .target target.be))
    have clear : next.Clear (.word .be :: disjunctionFollow) := by
      have others : next.Clear ([.word .be, .mark .emDash, .word .or, .word .and] ++
          Kind.equalities) := fun token member => follow token (left ▸ member)
      exact others.mono (by decide)
    refine ⟨lists, next, listed, accepts_expression .full whole reads clear, reads.cast rfl ?_⟩
    rw [reports_append, listed, reports_items, Target.reports_map_be]
  · obtain ⟨lists, listed⟩ := exists_lists (Target.allAllowed targets)
    obtain ⟨middle, reads, -⟩ := Pass.Reads.exists_of_ahead ahead
      (reports (targets.flatMap Target.notes))
    refine ⟨lists, middle, listed, reads.cast rfl ?_, fun fault next failed => ?_⟩
    · rw [listed, reports_items]
    · have given := expression_of_failed reads failed
      obtain ⟨read, reports, reads, overlong⟩ := areOverlong_of_failed given
      exact ⟨given, read, reports, reads, overlong.cause⟩

/-- A variable, a literal and a call as targets, first with a value behind them and then, of the
first two, without one. -/
theorem expression_of_targets_mixed :
    let be (line : Nat) : Token := ⟨.word .be, "be", none, line, ⟨⟨0, ""⟩, ⟨0, ""⟩⟩⟩
    let x : Token := .ofName "x"
    let f : Token := .ofName "f"
    let yes : Token := .ofWord .true_
    let dash : Token := .ofMark .emDash
    let semicolon : Token := .ofMark .semicolon
    let chain := [x, be 1, yes, be 2, f, dash, x, dash, be 3, f]
    let pass := Pass.start (chain ++ [semicolon]) ""
    let broken := Pass.start [x, be 1, yes, be 2, semicolon] ""
    (∃ next, expression pass = .ok (.assign x (.name f)) next ∧
      pass.Reads chain [⟨be 3, (be 3).fault .badTarget⟩, ⟨be 2, (be 2).fault .badTarget⟩] next) ∧
    ∃ fault next read reports, expression broken = .error fault next ∧
      fault.cause = .noExpression ";" ∧ broken.Reads read reports next ∧
      ∀ report ∈ reports, ∃ what, report.fault.cause = .tooMany what maxArity := by
  intro be x f yes dash semicolon chain pass broken
  have single {tokens : List Token} {expr : Expr} {notes : List Note}
      (call : Call tokens expr notes) : Disjunction tokens expr notes :=
    Chain.operand (Chain.operand (Chain.operand (Unary.call call)))
  have isCall : Call [f, dash, x, dash] (.call (.name f) [.name x] dash) [.items "arguments" [x]] :=
    .call (.primary (.name rfl)) rfl (.some (.one (.name rfl))) rfl
  let assigned : Target := ⟨[x], .name x, [], single (.primary (.name rfl)), be 1, rfl⟩
  let literal : Target :=
    ⟨[yes], .literal (.bool true), [], single (.primary (.yes rfl)), be 2, rfl⟩
  let called : Target := ⟨_, _, _, single isCall, be 3, rfl⟩
  obtain ⟨whole, -⟩ := expression_of_targets [assigned, literal, called] pass [semicolon]
  obtain ⟨-, givenUp⟩ := expression_of_targets [assigned, literal] broken [semicolon]
  have value : Disjunction [f] (.name f) [] := single (.primary (.name rfl))
  obtain ⟨lists, next, listed, read, reads⟩ := whole value rfl (by decide)
  obtain ⟨lists', middle, listed', reads', failed⟩ := givenUp rfl
  refine ⟨⟨next, read, reads.cast rfl ?_⟩, ?_⟩
  · obtain ⟨⟨what, list⟩, rest, rfl, isArguments, isNil⟩ := List.map_eq_cons_iff.mp listed.symm
    cases isArguments
    cases List.map_eq_nil_iff.mp isNil
    rfl
  · obtain rfl : lists' = [] := List.map_eq_nil_iff.mp listed'.symm
    let stopped : Pass := { broken with cursor := 4, inside := by decide }
    have stops : broken.Reads [x, be 1, yes, be 2] [] stopped := ⟨rfl, rfl, rfl, rfl, rfl, rfl, rfl⟩
    obtain rfl : middle = stopped := reads'.unique stops
    have atSemicolon : disjunction stopped =
        .error (semicolon.fault (.noExpression ";")) stopped := by cbv
    obtain ⟨given, read, reports, reads, lists⟩ := failed _ stopped atSemicolon
    exact ⟨_, _, read, reports, given, rfl, reads, lists⟩

end Reading

end Parlance
