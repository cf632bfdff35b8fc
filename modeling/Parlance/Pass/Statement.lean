/-
This file reads statements and declarations. The kind of the current token selects a rule from the
tables of the pass, and each rule reads its statement from the first token on. A declaration that
fails is reported at the token where reading stopped, tokens are passed over up to the next
statement, and an error takes the declaration's place, so that reading a declaration always gives a
statement.

A rule may have to read statements inside its own, and every rule that does so has read a token
before. So the rules are a recursion, whatever the tables say, and a body, which is read declaration
by declaration, comes to its end because each declaration gets over a token.
-/

import Parlance.Pass.Expression
import Parlance.Tree.Stmt

namespace Parlance

namespace Pass

variable {pass next : Pass}

/-- The rule for a statement that begins with the current token. -/
def statementRule (pass : Pass) : Rule :=
  (pass.statementRules pass.current.kind).getD .expression

/-- The rule for a declaration that begins with the current token. -/
def declarationRule (pass : Pass) : Rule :=
  (pass.declarationRules pass.current.kind).getD pass.statementRule

/-! ### Recovering from a failure -/

/-- Reads a statement, and on failure reports the fault and takes an error for the statement. -/
def recover (statement : Reading Stmt) (pass : Pass) : Stmt × Pass :=
  match statement pass with
  | .ok stmt next => (stmt, next)
  | .error fault next =>
    (.error next.current, (next.reportFault next.current fault).synchronize)

section Recover

variable {statement : Reading Stmt}

theorem recover_of_ok {stmt : Stmt} (done : statement pass = .ok stmt next) :
    recover statement pass = (stmt, next) := by
  rw [recover, done]

theorem recover_of_error {fault : Fault} (failed : statement pass = .error fault next) :
    recover statement pass =
      (.error next.current, (next.reportFault next.current fault).synchronize) := by
  rw [recover, failed]

theorem moves_recover (forward : statement.Forward fun _ => True) (pass : Pass) :
    pass.Moves (fun _ => True) (recover statement pass).2 := by
  cases outcome : statement pass with
  | ok stmt next => rw [recover_of_ok outcome]; exact forward.done outcome
  | error fault next =>
    rw [recover_of_error outcome]
    exact (forward.failed outcome).1.trans ((Moves.of_report
      (reads_reportFault next next.current fault)).trans (moves_synchronize _))

/-- A declaration gets over a token when there is one. -/
theorem left_recover_lt (progress : statement.Progress fun _ => True) (some : pass.ahead ≠ []) :
    (recover statement pass).2.left < pass.left := by
  cases outcome : statement pass with
  | ok stmt next => rw [recover_of_ok outcome]; exact progress.consumes outcome
  | error fault next =>
    rw [recover_of_error outcome]
    have reported := reads_reportFault next next.current fault
    obtain ⟨tokens, reports, reads, -⟩ := (progress.failed outcome).1
    by_cases ended : next.ahead = []
    · -- All tokens ahead were read before the failure.
      have whole := reads.ahead
      rw [ended, List.append_nil] at whole
      rw [synchronize_of_nil (reported.ahead.symm.trans ended)]
      exact Nat.lt_of_le_of_lt reported.left_le (reads.left_lt (whole ▸ some))
    · have left := left_synchronize_lt (reported.ahead ▸ ended)
      exact Nat.lt_of_lt_of_le left (Nat.le_trans reported.left_le reads.left_le)

end Recover

/-! ### Declarations one after another -/

section Until

variable {stop : Pass → Bool} {declaration declaration' : Pass → Stmt × Pass}

/-- Reads declarations one after another until a condition is met. Each of them gets the pass
further. -/
def declarationsUntil (stop : Pass → Bool) (declaration : Pass → Stmt × Pass)
    (gains : ∀ pass, stop pass = false → (declaration pass).2.left < pass.left) (pass : Pass) :
    List Stmt × Pass :=
  if stop pass then ([], pass)
  else
    let first := declaration pass
    let rest := declarationsUntil stop declaration gains first.2
    (first.1 :: rest.1, rest.2)
termination_by pass.left
decreasing_by
  rename_i goes
  exact gains pass (Bool.eq_false_iff.mpr goes)

variable {gains : ∀ pass, stop pass = false → (declaration pass).2.left < pass.left}

theorem declarationsUntil_of_stop (stops : stop pass = true) :
    declarationsUntil stop declaration gains pass = ([], pass) := by
  rw [declarationsUntil, if_pos stops]

theorem declarationsUntil_of_goes (goes : stop pass = false) :
    declarationsUntil stop declaration gains pass =
      ((declaration pass).1 :: (declarationsUntil stop declaration gains (declaration pass).2).1,
        (declarationsUntil stop declaration gains (declaration pass).2).2) := by
  rw [declarationsUntil, if_neg (Bool.eq_false_iff.mp goes)]

theorem moves_declarationsUntil
    (moves : ∀ pass : Pass, pass.Moves (fun _ => True) (declaration pass).2) (pass : Pass) :
    pass.Moves (fun _ => True) (declarationsUntil stop declaration gains pass).2 := by
  fun_induction declarationsUntil stop declaration gains pass with
  | case1 pass _ => exact Moves.refl pass
  | case2 pass _ first rest inductionHypothesis => exact (moves pass).trans inductionHypothesis

/-- Only the declarations from here on matter. -/
theorem declarationsUntil_congr
    (gains : ∀ pass, stop pass = false → (declaration pass).2.left < pass.left)
    (gains' : ∀ pass, stop pass = false → (declaration' pass).2.left < pass.left)
    (moves : ∀ pass : Pass, pass.Moves (fun _ => True) (declaration pass).2)
    (agree : ∀ next, pass.Moves (fun _ => True) next → stop next = false →
      declaration next = declaration' next) :
    declarationsUntil stop declaration gains pass =
      declarationsUntil stop declaration' gains' pass := by
  fun_induction declarationsUntil stop declaration gains pass with
  | case1 pass stops => rw [declarationsUntil_of_stop stops]
  | case2 pass goes first rest inductionHypothesis =>
    have goes := Bool.eq_false_iff.mpr goes
    have same := inductionHypothesis fun next moved => agree next ((moves pass).trans moved)
    rw [declarationsUntil_of_goes goes, ← agree pass (Moves.refl pass) goes, ← same]

end Until

/-- Whether a body ends here, at its dot or because no token is left. -/
def endsBody (pass : Pass) : Bool :=
  pass.check (.mark .dot) || pass.atEnd

theorem ahead_ne_nil_of_endsBody (goes : pass.endsBody = false) : pass.ahead ≠ [] :=
  atEnd_eq_false_iff.mp (Bool.or_eq_false_iff.mp goes).2

end Pass

/-! ### Parts of a statement -/

namespace Reading

/-- Reads an expression that a condition can be. -/
def condition : Reading Expr :=
  primary

/-- Reads a keyword and the condition between em-dashes behind it, with what to say if the opening
or the closing em-dash is missing. -/
def guard (opening closing : String) : Reading Expr := do
  let _ ← advance
  let _ ← expect (.mark .emDash) opening
  let test ← condition
  let _ ← expect (.mark .emDash) closing
  return test

theorem progress_guard (opening closing : String) :
    Progress (fun _ => True) (guard opening closing) :=
  forward_advance.bind_progress fun _ => (progress_expect trivial).bind fun _ =>
    progress_primary.any.toForward.bind fun _ => (progress_expect trivial).toForward.bind fun _ =>
    forward_pure _

/-- Reads `if` and its condition. -/
def ifHead : Reading Expr :=
  guard "Expect '—' after 'if'." "Expect '—' after if condition."

/-- Reads `while` and its condition. -/
def whileHead : Reading Expr :=
  guard "Expect '—' after 'while'." "Expect '—' after condition."

/-- Reads parameters. -/
def parameters : Reading (List Token) :=
  listed "parameters" (expect .identifier "Expect parameter name.")
    (progress_expect (by decide)).toForward

/-- Reads the head of a function, up to the colon in front of its body. -/
def functionHead : Reading (Token × List Token) := do
  let _ ← advance
  let name ← expect .identifier "Expect function name."
  let _ ← expect (.mark .emDash) "Expect '—' after function name."
  let parameters ← parameters
  let _ ← expect (.mark .emDash) "Expect '—' after parameters."
  let _ ← expect (.mark .colon) "Expect ':' before function body."
  return (name, parameters)

theorem progress_functionHead : Progress (fun _ => True) functionHead :=
  forward_advance.bind_progress fun _ => (progress_expect trivial).bind fun _ =>
    (progress_expect trivial).toForward.bind fun _ => (forward_listed _ _).any.bind fun _ =>
    (progress_expect trivial).toForward.bind fun _ => (progress_expect trivial).toForward.bind
    fun _ => forward_pure _

/-- Reads an expression unless the next token has a kind. -/
def expressionUnless (kind : Kind) : Reading (Option Expr) := fun pass =>
  if pass.check kind then .ok none pass
  else (some <$> expression) pass

theorem forward_expressionUnless (kind : Kind) :
    Forward (· ∈ Kind.inner) (expressionUnless kind) := by
  intro pass
  unfold expressionUnless
  split
  · exact forward_pure none pass
  · rw [← bind_pure_comp]
    exact progress_expression.toForward.bind (fun _ => forward_pure _) pass

/-- Reads an expression if a token of a kind stands in front of it. -/
def expressionAfter (kind : Kind) : Reading (Option Expr) := do
  match ← take? [kind] with
  | none => return none
  | some _ => return some (← expression)

theorem forward_expressionAfter {kind : Kind} (inside : kind ∈ Kind.inner) :
    Forward (· ∈ Kind.inner) (expressionAfter kind) := by
  refine (forward_take? fun other member => ?_).bind fun token => ?_
  · rw [List.mem_singleton.mp member]
    exact inside
  · cases token with
    | none => exact forward_pure none
    | some _ => exact progress_expression.toForward.bind fun _ => forward_pure _

/-! ### The rules, given how to read what they contain -/

/-- Reads a statement by the rule for it. -/
def statementBy (run : Rule → Reading Stmt) : Reading Stmt := fun pass =>
  run pass.statementRule pass

/-- Reads a declaration by the rule for it, recovering from a failure. -/
def declarationBy (run : Rule → Reading Stmt) (pass : Pass) : Stmt × Pass :=
  Pass.recover (run pass.declarationRule) pass

variable {run run' : Rule → Reading Stmt}

theorem forward_statementBy (progress : ∀ rule, (run rule).Progress fun _ => True) :
    Forward (fun _ => True) (statementBy run) :=
  fun pass => (progress pass.statementRule pass).toForward

theorem moves_declarationBy (progress : ∀ rule, (run rule).Progress fun _ => True) (pass : Pass) :
    pass.Moves (fun _ => True) (declarationBy run pass).2 :=
  Pass.moves_recover (progress _).toForward pass

theorem left_declarationBy_lt {pass : Pass} (progress : ∀ rule, (run rule).Progress fun _ => True)
    (some : pass.ahead ≠ []) : (declarationBy run pass).2.left < pass.left :=
  Pass.left_recover_lt (progress _) some

theorem left_lt_in_body (progress : ∀ rule, (run rule).Progress fun _ => True) (pass : Pass)
    (goes : pass.endsBody = false) : (declarationBy run pass).2.left < pass.left :=
  left_declarationBy_lt progress (Pass.ahead_ne_nil_of_endsBody goes)

/-- Reads declarations up to the dot that closes a block. -/
def blockBy (run : Rule → Reading Stmt) (progress : ∀ rule, (run rule).Progress fun _ => True) :
    Reading (List Stmt) := do
  let body ← modifyGet
    (Pass.declarationsUntil Pass.endsBody (declarationBy run) (left_lt_in_body progress))
  let _ ← expect (.mark .dot) "Expect '.' after block."
  return body

theorem forward_modifyGet {α : Type} {step : Pass → α × Pass} {allowed : Kind → Prop}
    (moves : ∀ pass : Pass, pass.Moves allowed (step pass).2) :
    Forward allowed (modifyGet step : Reading α) := by
  refine fun pass => ⟨fun done => ?_, fun failed => by cases failed⟩
  obtain ⟨-, rfl⟩ := modifyGet_eq_ok done
  exact moves pass

theorem progress_blockBy (progress : ∀ rule, (run rule).Progress fun _ => True) :
    Progress (fun _ => True) (blockBy run progress) :=
  (forward_modifyGet (Pass.moves_declarationsUntil (moves_declarationBy progress))).bind_progress
    fun _ => (progress_expect trivial).bind fun _ => forward_pure _

/-- What reads the statements of a block is only called where one of them begins. -/
theorem blockBy_congr {pass : Pass} {progress : ∀ rule, (run rule).Progress fun _ => True}
    {progress' : ∀ rule, (run' rule).Progress fun _ => True}
    (agree : ∀ rule next, pass.Moves (fun _ => True) next → next.ahead ≠ [] →
      run rule next = run' rule next) :
    blockBy run progress pass = blockBy run' progress' pass := by
  refine bind_congr_left ?_
  have same (next : Pass) (moved : pass.Moves (fun _ => True) next)
      (goes : next.endsBody = false) : declarationBy run next = declarationBy run' next := by
    rw [declarationBy, declarationBy, Pass.recover, Pass.recover,
      agree _ next moved (Pass.ahead_ne_nil_of_endsBody goes)]
  have declarations := Pass.declarationsUntil_congr (left_lt_in_body progress)
    (left_lt_in_body progress') (moves_declarationBy progress) same
  exact congrArg (fun pair : List Stmt × Pass => EStateM.Result.ok pair.1 pair.2) declarations

end Reading

namespace Rule

open Reading

/-- Reads a statement by a rule. Statements inside it are read by `run`, which makes progress. -/
def read (run : Rule → Reading Stmt) (progress : ∀ rule, (run rule).Progress fun _ => True) :
    Rule → Reading Stmt
  | function => do
    let (name, parameters) ← functionHead
    return .function name parameters (← blockBy run progress)
  | var => do
    let _ ← advance
    let name ← expect .identifier "Expect variable name."
    let initial ← expressionAfter (.word .be)
    let _ ← expect (.mark .semicolon) "Expect ';' after variable declaration."
    return .var name initial
  | ifElse => do
    let test ← ifHead
    let body ← statementBy run
    match ← take? [.word .else_] with
    | none => return .ifThen test body
    | some _ => return .ifElse test body (← statementBy run)
  | print => do
    let _ ← advance
    let value ← Reading.expression
    let _ ← expect (.mark .semicolon) "Expect ';' after value."
    return .print value
  | returns => do
    let keyword ← advance
    let value ← expressionUnless (.mark .semicolon)
    let _ ← expect (.mark .semicolon) "Expect ';' after return value."
    return .returns keyword value
  | whileDo => do
    let test ← whileHead
    return .whileDo test (← statementBy run)
  | block => do
    let _ ← advance
    return .block (← blockBy run progress)
  | expression => do
    let value ← Reading.expression
    let _ ← expect (.mark .semicolon) "Expect ';' after value."
    return .expression value

variable {run run' : Rule → Reading Stmt} {progress : ∀ rule, (run rule).Progress fun _ => True}
  {progress' : ∀ rule, (run' rule).Progress fun _ => True}

/-- A rule makes progress itself. -/
theorem progress_read (rule : Rule) : (rule.read run progress).Progress fun _ => True := by
  have expects {kind : Kind} {message : String} :
      (expect kind message).Progress fun _ => True := progress_expect trivial
  cases rule with
  | function =>
    exact progress_functionHead.bind fun _ => (progress_blockBy progress).toForward.bind fun _ =>
      forward_pure _
  | var =>
    exact forward_advance.bind_progress fun _ => expects.bind fun _ =>
      (forward_expressionAfter (by decide)).any.bind fun _ =>
      expects.toForward.bind fun _ => forward_pure _
  | ifElse =>
    refine (progress_guard _ _).bind fun _ => (forward_statementBy progress).bind fun _ =>
      (forward_take? fun _ _ => trivial).bind fun token => ?_
    cases token with
    | none => exact forward_pure _
    | some _ => exact (forward_statementBy progress).bind fun _ => forward_pure _
  | print =>
    exact forward_advance.bind_progress fun _ => progress_expression.any.bind fun _ =>
      expects.toForward.bind fun _ => forward_pure _
  | returns =>
    exact forward_advance.bind_progress fun _ =>
      (forward_expressionUnless _).any.bind_progress fun _ => expects.bind fun _ => forward_pure _
  | whileDo =>
    exact (progress_guard _ _).bind fun _ => (forward_statementBy progress).bind fun _ =>
      forward_pure _
  | block =>
    exact forward_advance.bind_progress fun _ => (progress_blockBy progress).bind fun _ =>
      forward_pure _
  | expression =>
    exact progress_expression.any.bind fun _ => expects.toForward.bind fun _ => forward_pure _

/-- A rule runs other rules only where fewer tokens are left. -/
theorem read_congr {pass : Pass}
    (agree : ∀ rule (next : Pass), next.left < pass.left → run rule next = run' rule next)
    (rule : Rule) : rule.read run progress pass = rule.read run' progress' pass := by
  cases rule with
  | function =>
    refine bind_congr fun _ middle isHead => bind_congr_left (blockBy_congr fun rule next moved _ =>
      agree rule next ?_)
    exact Nat.lt_of_le_of_lt moved.left_le (progress_functionHead.consumes isHead)
  | var => rfl
  | ifElse =>
    refine bind_congr fun _ middle isHead => ?_
    have toBody := (progress_guard _ _).consumes isHead
    have same : statementBy run middle = statementBy run' middle :=
      agree middle.statementRule middle toBody
    rw [bind_congr_left same]
    refine bind_congr fun _ _ read => bind_congr fun token last taken => ?_
    cases token with
    | none => rfl
    | some _ =>
      have toElse := ((forward_statementBy progress).done (same.trans read)).left_le
      have toOtherwise := left_lt_of_take? taken
      exact bind_congr_left (agree last.statementRule last (by omega))
  | print => rfl
  | returns => rfl
  | whileDo =>
    exact bind_congr fun _ last isHead =>
      bind_congr_left (agree last.statementRule last ((progress_guard _ _).consumes isHead))
  | block =>
    exact bind_congr fun _ middle advanced =>
      bind_congr_left (blockBy_congr fun rule next moved some =>
        agree rule next (left_lt_of_advance advanced some moved))
  | expression => rfl

end Rule

/-! ### The rules tied together -/

/-- The rules, which read the statements inside a statement by each other. -/
def Recursion.rules : Recursion Rule Stmt where
  Sound := Outcome.Progress fun _ => True
  body run progress rule := rule.read run progress
  sound_fail := Reading.progress_fail fun _ => rfl
  sound _ _ rule := rule.progress_read
  guarded _ _ _ _ rule _ agree := Rule.read_congr agree rule

/-- Reads a statement by a rule. -/
def Reading.byRule : Rule → Reading Stmt :=
  Recursion.rules.read

theorem Rule.progress_byRule (rule : Rule) : (Reading.byRule rule).Progress fun _ => True :=
  Recursion.rules.sound_read rule

/-- A rule reads the statements inside its own by the rules for them. -/
theorem Rule.byRule_eq (rule : Rule) :
    Reading.byRule rule = rule.read Reading.byRule progress_byRule :=
  Recursion.rules.read_eq rule

/-- Reads a statement. -/
def Reading.statement : Reading Stmt :=
  statementBy byRule

theorem Reading.forward_statement : statement.Forward fun _ => True :=
  forward_statementBy Rule.progress_byRule

/-- Reads declarations up to the dot that closes a block. -/
def Reading.block : Reading (List Stmt) :=
  blockBy byRule Rule.progress_byRule

namespace Pass

/-- Reads a declaration. -/
def declaration (pass : Pass) : Stmt × Pass :=
  Reading.declarationBy Reading.byRule pass

variable {pass : Pass}

theorem moves_declaration (pass : Pass) : pass.Moves (fun _ => True) pass.declaration.2 :=
  Reading.moves_declarationBy Rule.progress_byRule pass

theorem left_declaration_lt (some : pass.ahead ≠ []) : pass.declaration.2.left < pass.left :=
  Reading.left_declarationBy_lt Rule.progress_byRule some

/-- A condition on which declarations are no longer read: it is met at the end, and else at most in
front of a dot. -/
structure Halts (stop : Pass → Bool) : Prop where
  ended : ∀ pass, pass.ahead = [] → stop pass = true
  goes : ∀ {pass token rest}, pass.ahead = token :: rest → token.kind ≠ .mark .dot →
    stop pass = false

theorem halts_atEnd : Halts atEnd where
  ended _ ahead := atEnd_eq_true_iff.mpr ahead
  goes ahead _ := atEnd_eq_false_iff.mpr (ahead ▸ List.cons_ne_nil _ _)

theorem halts_endsBody : Halts endsBody where
  ended _ ahead := by rw [endsBody, atEnd_eq_true_iff.mpr ahead, Bool.or_true]
  goes ahead notDot := by
    rw [endsBody, check_eq_false ahead notDot, halts_atEnd.goes ahead notDot]
    rfl

section Until

variable {stop : Pass → Bool}

theorem Halts.ahead_ne_nil (halts : Halts stop) (goes : stop pass = false) : pass.ahead ≠ [] := by
  intro ahead
  rw [halts.ended pass ahead] at goes
  cases goes

/-- Reads declarations until a condition is met. -/
def readUntil (halts : Halts stop) (pass : Pass) : List Stmt × Pass :=
  declarationsUntil stop declaration (fun _ goes => left_declaration_lt (halts.ahead_ne_nil goes))
    pass

theorem readUntil_of_stop (halts : Halts stop) (stops : stop pass = true) :
    pass.readUntil halts = ([], pass) :=
  declarationsUntil_of_stop stops

theorem readUntil_of_goes (halts : Halts stop) (goes : stop pass = false) :
    pass.readUntil halts =
      (pass.declaration.1 :: (pass.declaration.2.readUntil halts).1,
        (pass.declaration.2.readUntil halts).2) :=
  declarationsUntil_of_goes goes

/-- A block is read up to the dot that closes it. -/
theorem block_eq_readUntil :
    Reading.block = (do
      let body ← modifyGet (readUntil halts_endsBody)
      let _ ← Reading.expect (.mark .dot) "Expect '.' after block."
      return body) :=
  rfl

end Until

/-- Reads declarations up to the end. -/
def declarations (pass : Pass) : List Stmt × Pass :=
  pass.readUntil halts_atEnd

theorem declarations_of_nil (ahead : pass.ahead = []) : pass.declarations = ([], pass) :=
  readUntil_of_stop halts_atEnd (atEnd_eq_true_iff.mpr ahead)

theorem declarations_of_ne_nil (some : pass.ahead ≠ []) :
    pass.declarations =
      (pass.declaration.1 :: pass.declaration.2.declarations.1,
        pass.declaration.2.declarations.2) :=
  readUntil_of_goes halts_atEnd (atEnd_eq_false_iff.mpr some)

/-- What holds at the end, and in front of each declaration if it holds behind it, holds of every
pass. -/
@[elab_as_elim]
theorem declarations_induction {motive : Pass → Prop}
    (ended : ∀ pass, pass.ahead = [] → motive pass)
    (step : ∀ pass, pass.ahead ≠ [] → motive pass.declaration.2 → motive pass) (pass : Pass) :
    motive pass := by
  induction length : pass.left using Nat.strongRecOn generalizing pass with
  | ind length inductionHypothesis =>
    subst length
    by_cases ahead : pass.ahead = []
    · exact ended pass ahead
    · exact step pass ahead (inductionHypothesis _ (left_declaration_lt ahead) _ rfl)

theorem moves_declarations (pass : Pass) : pass.Moves (fun _ => True) pass.declarations.2 :=
  moves_declarationsUntil moves_declaration pass

/-- Reading all declarations leaves no token. -/
theorem ahead_declarations (pass : Pass) : pass.declarations.2.ahead = [] := by
  induction pass using declarations_induction with
  | ended pass ahead =>
    rw [declarations_of_nil ahead]
    exact ahead
  | step pass some inductionHypothesis =>
    rw [declarations_of_ne_nil some]
    exact inductionHypothesis

end Pass

end Parlance
