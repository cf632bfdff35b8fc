/-
This file proves that reading comes to an end, and where. Whatever the tables of a pass are, even if
they have a rule for the end token, a declaration gets over at least one token when there is one,
and a rule that begins at the end fails there. Whatever a rule or a loop in an expression calls
while it reads, it calls where fewer tokens are left, and so all these calls return. Declarations
one after another stop after finitely many of them, in a program as in a block. A program is read up
to the first end token and not beyond it, and has at most as many statements as there are tokens in
front of that.
-/

import Parlance.Proofs.Completeness
import Parlance.Proofs.Slices

namespace Parlance

/-! ### At the end -/

namespace Pass

variable {pass next : Pass}

theorem Reads.cursor_lt {tokens : List Token} {reports : List Diagnostic}
    (reads : pass.Reads tokens reports next) (shorter : next.left < pass.left) :
    pass.cursor < next.cursor := by
  have length := reads.left_add_length
  rw [reads.cursor]
  omega

/-- From the end a pass gets nowhere. -/
theorem Moves.cursor_eq_of_nil {allowed : Kind → Prop} (moves : pass.Moves allowed next)
    (ended : pass.ahead = []) : next.cursor = pass.cursor := by
  obtain ⟨tokens, reports, reads, -⟩ := moves
  have nothing := reads.ahead
  rw [ended] at nothing
  rw [reads.cursor, (List.append_eq_nil_iff.mp nothing.symm).1]
  rfl

end Pass

namespace Reading

/-- What has to read a token fails at the end, and stays there. -/
theorem Progress.exists_error_of_nil {α : Type} {allowed : Kind → Prop} {reading : Reading α}
    {pass : Pass} (progress : reading.Progress allowed) (ended : pass.ahead = []) :
    ∃ fault next, reading pass = .error fault next ∧ next.cursor = pass.cursor := by
  cases outcome : reading pass with
  | ok value next =>
    obtain ⟨tokens, reports, reads, -⟩ := progress.done outcome
    have further := reads.cursor_lt (progress.consumes outcome)
    exact absurd ((progress.done outcome).cursor_eq_of_nil ended) (Nat.ne_of_gt further)
  | error fault next =>
    exact ⟨fault, next, rfl, (progress.failed outcome).1.cursor_eq_of_nil ended⟩

end Reading

/-! ### All calls return -/

/-- From a pass a reading that calls itself comes to an end. Whatever state it is called from, what
it calls decides its outcome only where fewer tokens are left, and it returns this outcome and no
other. -/
structure Recursion.Ends {σ α : Type} (recursion : Recursion σ α) (pass : Pass) : Prop where
  nests : ∀ again isSound state,
    (∀ state (next : Pass), next.left < pass.left → again state next = recursion.read state next) →
    recursion.body again isSound state pass = recursion.read state pass
  returns : ∀ state outcome,
    recursion.Returns state pass outcome ↔ outcome = recursion.read state pass

theorem Recursion.ends {σ α : Type} (recursion : Recursion σ α) (pass : Pass) :
    recursion.Ends pass where
  nests again isSound state agree := by
    rw [read_eq]
    exact recursion.guarded _ _ _ _ state pass agree
  returns state outcome := by
    constructor
    · exact Returns.eq_read
    · rintro rfl
      exact recursion.returns_read state pass

/-- From a pass the rules come to an end, which read statements inside statements, and each loop in
an expression or a list. -/
structure Pass.Ends (pass : Pass) : Prop where
  rules : Recursion.rules.Ends pass
  parameters : (Recursion.items "parameters" (Reading.expect .identifier "Expect parameter name.")
    (Reading.progress_expect (by decide)).toForward).Ends pass
  arguments : (Recursion.items "arguments" Reading.primary
    Reading.progress_primary.toForward).Ends pass
  calls : Recursion.callsOn.Ends pass
  unary : Recursion.unary.Ends pass
  equality : (Recursion.chainOn Kind.equalities (by decide) .binary Reading.unary
    Reading.progress_unary.toForward).Ends pass
  conjunction : (Recursion.chainOn [.word .and] (by decide) .logical Reading.equality
    Reading.progress_equality.toForward).Ends pass
  disjunction : (Recursion.chainOn [.word .or] (by decide) .logical Reading.conjunction
    Reading.progress_conjunction.toForward).Ends pass
  assignment : Recursion.assignment.Ends pass

theorem Pass.ends (pass : Pass) : pass.Ends :=
  ⟨Recursion.ends _ pass, Recursion.ends _ pass, Recursion.ends _ pass, Recursion.ends _ pass,
    Recursion.ends _ pass, Recursion.ends _ pass, Recursion.ends _ pass, Recursion.ends _ pass,
    Recursion.ends _ pass⟩

/-! ### Declarations one after another -/

namespace Pass

/-- A declaration gets further when there is a token to read, whether it fails or not. -/
theorem cursor_lt_declaration {pass : Pass} (some : pass.ahead ≠ []) :
    pass.cursor < pass.declaration.2.cursor := by
  obtain ⟨tokens, reports, reads, -⟩ := moves_declaration pass
  exact reads.cursor_lt (left_declaration_lt some)

/-- Reading one declaration after another until a condition is met comes to an end, with these
statements and in front of what `next` has ahead. -/
inductive Runs (stop : Pass → Bool) : Pass → List Stmt → Pass → Prop
  | stopped {pass} : stop pass = true → Runs stop pass [] pass
  | declaration {pass rest next} : stop pass = false → Runs stop pass.declaration.2 rest next →
      Runs stop pass (pass.declaration.1 :: rest) next

variable {stop : Pass → Bool} {pass next : Pass} {stmts : List Stmt}

theorem runs_readUntil (halts : Halts stop) (pass : Pass) :
    Runs stop pass (pass.readUntil halts).1 (pass.readUntil halts).2 := by
  induction pass using declarations_induction with
  | ended pass ahead =>
    have stops := halts.ended pass ahead
    rw [readUntil_of_stop halts stops]
    exact .stopped stops
  | step pass _ inductionHypothesis =>
    cases stops : stop pass with
    | true =>
      rw [readUntil_of_stop halts stops]
      exact .stopped stops
    | false =>
      rw [readUntil_of_goes halts stops]
      exact .declaration stops inductionHypothesis

/-- There are no more declarations than tokens that are read. -/
theorem Runs.length_le (runs : Runs stop pass stmts next) (halts : Halts stop) :
    stmts.length + next.ahead.length ≤ pass.ahead.length := by
  induction runs with
  | stopped _ => exact Nat.le_of_eq (Nat.zero_add _)
  | @declaration pass _ _ goes _ inductionHypothesis =>
    obtain ⟨tokens, reports, reads, -⟩ := moves_declaration pass
    have further := reads.cursor_lt (left_declaration_lt (halts.ahead_ne_nil goes))
    rw [reads.cursor] at further
    rw [reads.ahead, List.length_append, List.length_cons]
    omega

/-- A block is read declaration by declaration until one stands in front of a dot or at the end, and
only then the dot is asked for. -/
theorem exists_runs_block (pass : Pass) :
    ∃ body last, Runs endsBody pass body last ∧
      Reading.block pass = (do
        let _ ← Reading.expect (.mark .dot) "Expect '.' after block."
        return body : Reading (List Stmt)) last :=
  ⟨_, _, runs_readUntil halts_endsBody pass, by rw [block_eq_readUntil]; rfl⟩

/-! ### Any tables -/

/-- The pass that is about to read a list of tokens by other tables. -/
def startWith (tokens : List Token) (file : String) (declarationRules statementRules : RuleTable) :
    Pass :=
  { start tokens file with declarationRules, statementRules }

/-- Wherever a pass stands, and whatever rules its tables have for whatever kinds of token: a
declaration in front of a token gets further, every rule fails at the end without moving, every call
returns and is nested in one with more tokens left, and programs and blocks are read to their end.
A whole program ends at the first end token, with at most one statement for each token in front of
it. -/
theorem declarations_reach_eof (tokens : List Token) (file : String)
    (declarationRules statementRules : RuleTable) :
    let first := startWith tokens file declarationRules statementRules
    (∀ pass : Pass,
      (pass.current.kind ≠ .eof → pass.cursor < pass.declaration.2.cursor) ∧
      (pass.current.kind = .eof → ∀ rule, ∃ fault next,
        Reading.byRule rule pass = .error fault next ∧ next.cursor = pass.cursor) ∧
      pass.Ends ∧
      Runs atEnd pass pass.declarations.1 pass.declarations.2 ∧
      ∃ body last, Runs endsBody pass body last ∧
        Reading.block pass = (do
          let _ ← Reading.expect (.mark .dot) "Expect '.' after block."
          return body : Reading (List Stmt)) last) ∧
    first.declarations.2.cursor = tokens.findIdx (·.kind = .eof) ∧
    first.declarations.2.current = Token.firstEof tokens file ∧
    first.declarations.1.length ≤ tokens.findIdx (·.kind = .eof) := by
  intro first
  have ended := ahead_declarations first
  have whole : first.ahead = (start tokens file).ahead := rfl
  obtain ⟨all, reported, reads, -⟩ := moves_declarations first
  refine ⟨fun pass => ⟨fun notEof => ?_, fun isEof rule => ?_, pass.ends,
    runs_readUntil halts_atEnd pass, exists_runs_block pass⟩, ?_, ?_, ?_⟩
  · exact cursor_lt_declaration fun ahead => notEof (ahead_eq_nil_iff.mp ahead)
  · exact (Rule.progress_byRule rule).exists_error_of_nil (ahead_eq_nil_iff.mpr isEof)
  · rw [reads.cursor_of_nil ended, whole, length_ahead_start tokens file]
    exact Nat.zero_add _
  · rw [current_of_nil ended, reads.final]
    exact (ahead_start tokens file).2
  · have length := (runs_readUntil halts_atEnd first).length_le halts_atEnd
    rw [← length_ahead_start tokens file]
    exact Nat.le_trans (Nat.le_add_right _ _) length

end Pass

end Parlance
