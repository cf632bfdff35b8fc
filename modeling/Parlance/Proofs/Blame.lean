/-
This file proves that every report fits the token it blames. The cause of a failure is found deep
inside a declaration and reported only when the declaration is given up, at whatever token is then
current; but between the two nothing is read, so it is the token the cause was found at. The other
reports blame a token at once. All this holds whatever the tables of the pass are, and it is kept by
a run: a pass is in order when each of its reports is justified by the tokens it is over. And a
fatal report is that of a declaration which was begun, and for which an error stands.
-/

import Parlance.Proofs.Order
import Parlance.Proofs.Unwinding

namespace Parlance

/-! ### Reports and the tokens they blame -/

/-- A cause says of a token only what is so. The causes for which a source cannot be divided are
never found at a token. -/
def Cause.Fits (token : Token) : Cause → Prop
  | missing found _ => found = token.value
  | noExpression found => found = token.value
  | badNumber text => text = token.value
  | badTarget => token.kind = .word .be
  | tooMany _ _ => True
  | unrecognised _ => False
  | unterminated _ => False

/-- A number that cannot be read is only found at a number that carries no value. -/
def Cause.Valueless (token : Token) (cause : Cause) : Prop :=
  ∀ text, cause = .badNumber text → token.kind = .number ∧ token.literal = none

theorem Cause.Found.fits {token : Token} {cause : Cause} (found : cause.Found token) :
    cause.Fits token := by
  cases found with
  | missing message => rfl
  | noExpression => rfl
  | refused refused =>
    unfold Token.primary at refused
    split at refused
    case h_5 =>
      split at refused
      · cases refused
      · split at refused <;> cases refused
        rfl
    all_goals cases refused
    rfl

theorem Cause.Found.valueless {token : Token} {cause : Cause} (found : cause.Found token) :
    cause.Valueless token := by
  rintro text rfl
  cases found with
  | refused refused =>
    unfold Token.primary at refused
    split at refused
    case h_5 isNumber =>
      refine ⟨isNumber, ?_⟩
      split at refused
      · cases refused
      · assumption
    all_goals cases refused

namespace Pass

variable {first pass next : Pass} {tokens : List Token} {reports : List Diagnostic}

/-- What a pass that began as `first` may report: it blames one of the tokens, where this stands,
for what is so. -/
structure Justifies (first : Pass) (report : Diagnostic) : Prop where
  member : report.token ∈ first.tokens ++ [first.final]
  position : report.fault.position = report.token.position
  cause : report.fault.cause.Fits report.token
  valueless : report.fault.cause.Valueless report.token

/-- A pass has got here from `first`, and each of its reports is justified. -/
structure InOrder (first pass : Pass) : Prop where
  moves : first.Moves (fun _ => True) pass
  justified : ∀ report ∈ pass.log.reported, first.Justifies report

/-- The tokens that a pass is over stay the same. -/
theorem Reads.all_tokens (reads : pass.Reads tokens reports next) :
    next.tokens ++ [next.final] = pass.tokens ++ [pass.final] := by
  simp [Pass.tokens, reads.behind, reads.ahead, reads.final]

theorem current_mem (pass : Pass) : pass.current ∈ pass.tokens ++ [pass.final] := by
  cases ahead : pass.ahead with
  | nil => simp [current_of_nil ahead]
  | cons token rest => simp [current_of_ahead ahead, Pass.tokens, ahead]

namespace InOrder

theorem refl (fresh : first.log.reported = []) : first.InOrder first where
  moves := Moves.refl first
  justified report member := by
    rw [fresh] at member
    cases member

theorem of_reads (inOrder : first.InOrder pass) (reads : pass.Reads tokens reports next)
    (justifies : ∀ report ∈ reports, first.Justifies report) : first.InOrder next where
  moves := inOrder.moves.trans ⟨tokens, reports, reads, fun _ _ => trivial⟩
  justified := by
    rw [reads.log]
    exact List.forall_mem_append.mpr ⟨inOrder.justified, justifies⟩

theorem read (inOrder : first.InOrder pass) (reads : pass.Reads tokens [] next) :
    first.InOrder next :=
  inOrder.of_reads reads fun _ member => absurd member List.not_mem_nil

theorem mem_of_mem (inOrder : first.InOrder pass) {token : Token}
    (member : token ∈ pass.tokens ++ [pass.final]) : token ∈ first.tokens ++ [first.final] := by
  obtain ⟨tokens, reports, reads, -⟩ := inOrder.moves
  exact reads.all_tokens ▸ member

/-- A report at one of the tokens for what is so of it. -/
theorem reported (inOrder : first.InOrder pass) {token : Token} {cause : Cause}
    (member : token ∈ pass.tokens ++ [pass.final]) (fits : cause.Fits token)
    (valueless : cause.Valueless token) : first.InOrder (pass.report token cause) :=
  inOrder.of_reads (reads_report pass token cause)
    (List.forall_mem_singleton.mpr ⟨inOrder.mem_of_mem member, rfl, fits, valueless⟩)

theorem synchronize (inOrder : first.InOrder pass) : first.InOrder pass.synchronize := by
  obtain ⟨tokens, reads, -⟩ := exists_reads_synchronize pass
  exact inOrder.read reads

end InOrder

end Pass

/-- A run keeps a pass in order. Where it fails, the current token is blamed for what is so. -/
def Invariant.inOrder (first : Pass) : Invariant where
  holds _ := first.InOrder
  fails fault pass := first.InOrder pass ∧ fault.position = pass.current.position ∧
    fault.cause.Fits pass.current ∧ fault.cause.Valueless pass.current

namespace Invariant

variable (first : Pass)

theorem inOrder_inAssignments : (inOrder first).InAssignments where
  item := id
  token holds reads := holds.read reads
  overlong _ holds := holds.reported (Pass.current_mem _) trivial nofun
  fails holds found := ⟨holds, rfl, found.fits, found.valueless⟩
  value := id
  badTarget holds isBe read :=
    holds.reported (List.mem_append_left _ (List.mem_append_left _ (List.mem_reverse.mpr read)))
      isBe nofun

theorem inOrder_inPrograms : (inOrder first).InPrograms where
  toInExpressions := (inOrder_inAssignments first).toInExpressions
  value := id
  expression := (inOrder_inAssignments first).toSimulation.inStep_expression
  semicolon holds reads _ := holds.read reads
  noSemicolon _ holds := ⟨holds, rfl, rfl, nofun⟩
  body := id
  goesOn := id
  begins := id
  ended := id
  recovers fails := by
    obtain ⟨holds, position, fits, valueless⟩ := fails
    exact (holds.of_reads (Pass.reads_reportFault _ _ _) (List.forall_mem_singleton.mpr
      ⟨holds.mem_of_mem (Pass.current_mem _), position, fits, valueless⟩)).synchronize

end Invariant

namespace Pass

/-- Reading a program keeps a pass in order. -/
theorem InOrder.declarations {first pass : Pass} (inOrder : first.InOrder pass) :
    first.InOrder pass.declarations.2 :=
  (Invariant.inOrder_inPrograms first).holds_declarations inOrder

/-- A declaration that fails becomes the error for the token it is blamed on, and its report is the
last one made of it. -/
theorem declaration_of_failure (failure : Failure) :
    failure.begun.declaration.1 = .error failure.report.token ∧
      failure.begun.declaration.2.log.reported =
        failure.stopped.log.reported ++ [failure.report] := by
  have same : failure.begun.declaration = (.error failure.stopped.current,
      (failure.stopped.reportFault failure.stopped.current failure.fault).synchronize) :=
    recover_of_error failure.failed
  obtain ⟨tokens, reads, -⟩ := exists_reads_synchronize
    (failure.stopped.reportFault failure.stopped.current failure.fault)
  rw [same, reads.log, List.append_nil]
  exact ⟨rfl, (reads_reportFault _ _ _).log⟩

/-- A fatal report is that of a failure of a declaration that is begun on the way. -/
theorem exists_failure_of_fatal {first : Pass} (fresh : first.log.reported = [])
    {earlier later : List Diagnostic} {report : Diagnostic}
    (split : first.declarations.2.log.reported = earlier ++ report :: later)
    (fatal : report.fault.cause.fatal = true) :
    ∃ failure : Failure, Begins atEnd first failure.begun ∧ failure.report = report ∧
      failure.stopped.log.reported = earlier := by
  obtain ⟨failures, tells, begins, -⟩ := Reading.exists_tells_of_runs
    (runs_readUntil halts_atEnd first) halts_atEnd fun later _ _ rule =>
      Reading.tellsAt_byRule rule later
  have isPrefix : earlier ++ [report] <+: first.declarations.2.log.reported :=
    ⟨later, by rw [split, List.append_assoc]; rfl⟩
  have new : first.log.reported.length ≤ earlier.length := by
    rw [fresh]
    exact Nat.zero_le _
  obtain ⟨failure, member, told, before⟩ := tells.found isPrefix new fatal
  exact ⟨failure, begins failure member, told, before⟩

variable (tokens : List Token) (file : String) (declarationRules statementRules : RuleTable)

theorem tokens_startWith :
    (startWith tokens file declarationRules statementRules).tokens ++
        [(startWith tokens file declarationRules statementRules).final] =
      Token.upToEof tokens file :=
  upToEof_eq tokens file

theorem length_upToEof :
    (Token.upToEof tokens file).length = tokens.findIdx (·.kind = .eof) + 1 := by
  rw [← upToEof_eq, List.length_append, ← length_ahead_start tokens file]
  rfl

/-- Whatever rules are chosen for whatever kinds of token, each report blames a token up to the
first end token, where this stands; what it says of the token is so; and a fatal one was made by a
declaration that was really begun, at the top or in a body, and that became the error for the same
token. -/
theorem reports_fit_tokens {earlier later : List Diagnostic} {report : Diagnostic}
    (split : (startWith tokens file declarationRules statementRules).declarations.2.log.reported =
      earlier ++ report :: later) :
    (∃ index, index ≤ tokens.findIdx (·.kind = .eof) ∧
      (Token.upToEof tokens file)[index]? = some report.token) ∧
    report.fault.position = report.token.span.start ∧
    (∀ found message, report.fault.cause = .missing found message →
      found = report.token.value) ∧
    (∀ found, report.fault.cause = .noExpression found → found = report.token.value) ∧
    (∀ text, report.fault.cause = .badNumber text → text = report.token.value) ∧
    (report.fault.cause = .badTarget → report.token.kind = .word .be) ∧
    (report.fault.cause.fatal = true → ∃ begun,
      Begins atEnd (startWith tokens file declarationRules statementRules) begun ∧
      (∃ read reports,
        (startWith tokens file declarationRules statementRules).Reads read reports begun) ∧
      begun.declaration.1 = .error report.token ∧
      begun.declaration.2.log.reported = earlier ++ [report]) := by
  have fresh : (startWith tokens file declarationRules statementRules).log.reported = [] := rfl
  have inOrder := (InOrder.refl fresh).declarations
  obtain ⟨member, position, cause, -⟩ := inOrder.justified report
    (split ▸ List.mem_append_right _ List.mem_cons_self)
  refine ⟨?_, position, ?_, ?_, ?_, ?_, fun fatal => ?_⟩
  · rw [tokens_startWith] at member
    obtain ⟨index, bound, found⟩ := List.mem_iff_getElem.mp member
    rw [length_upToEof] at bound
    exact ⟨index, Nat.le_of_lt_succ bound, List.getElem?_eq_some_iff.mpr ⟨_, found⟩⟩
  · exact fun found message isMissing => by simpa [isMissing, Cause.Fits] using cause
  · exact fun found noExpression => by simpa [noExpression, Cause.Fits] using cause
  · exact fun text badNumber => by simpa [badNumber, Cause.Fits] using cause
  · exact fun badTarget => by simpa [badTarget, Cause.Fits] using cause
  · obtain ⟨failure, begins, rfl, rfl⟩ := exists_failure_of_fatal fresh split fatal
    obtain ⟨read, reports, reads, -⟩ := begins.moves
    obtain ⟨isError, log⟩ := declaration_of_failure failure
    exact ⟨failure.begun, begins, ⟨read, reports, reads⟩, isError, log⟩

/-- A table that reads a name like a colon: the semicolon behind it is blamed inside the block, and
its error is dropped with the block, which has no dot. -/
theorem reports_fit_tokens_dropped :
    let semicolon : Token := ⟨.mark .semicolon, ";", none, 1, ⟨⟨1, "f"⟩, ⟨2, "f"⟩⟩⟩
    let eof : Token := Token.eof 1 ⟨⟨2, "f"⟩, ⟨2, "f"⟩⟩
    let first := startWith [⟨.identifier, "x", none, 1, ⟨⟨0, "f"⟩, ⟨1, "f"⟩⟩⟩, semicolon] "f"
      (fun _ => none) (RuleTable.statements.set .identifier .block)
    let report : Diagnostic := ⟨semicolon, semicolon.fault (.noExpression ";")⟩
    first.declarations.1 = [.error eof] ∧
    first.declarations.2.log.reported =
      [report, ⟨eof, eof.fault (.missing "EOF" "Expect '.' after block.")⟩] ∧
    ∃ begun, Begins atEnd first begun ∧ (∃ read reports, first.Reads read reports begun) ∧
      begun.declaration.1 = .error semicolon ∧ begun.declaration.2.log.reported = [report] := by
  intro semicolon eof first report
  have log : first.declarations.2.log.reported =
      [] ++ report :: [⟨eof, eof.fault (.missing "EOF" "Expect '.' after block.")⟩] := by
    decide +kernel
  exact ⟨by cbv, log, (reports_fit_tokens _ _ _ _ log).2.2.2.2.2.2 rfl⟩

end Pass

end Parlance
