/-
This file compares the forms of the grammar. The notes of a derivation tell how lenient it had to
be: a target that was dropped and a declaration that was given up leave a note each. A derivation is
therefore one of every grammar that allows its notes, and a grammar allows all notes of what it
derives. That a declaration was given up also shows in the statement, which then has an error in it,
and in the reports, one of which is then fatal.
-/

import Parlance.Proofs.Grammar

namespace Parlance

namespace Grammar

/-- Whether a grammar derives what a note is taken of. A declaration is only given up for a fatal
cause. -/
def Note.Allowed (leniency : Leniency) : Note → Prop
  | items _ _ => True
  | target _ => leniency.targets
  | failed reports => leniency.errors ∧ ∃ report ∈ reports, report.fault.cause.fatal = true

theorem Note.Allowed.mono {leniency leniency' : Leniency} {note : Note}
    (allowed : note.Allowed leniency) (targets : leniency.targets → leniency'.targets)
    (errors : leniency.errors → leniency'.errors) : note.Allowed leniency' := by
  cases note with
  | items _ _ => trivial
  | target _ => exact targets allowed
  | failed _ => exact ⟨errors allowed.1, allowed.2⟩

/-- Whether a grammar derives what each of several notes is taken of. -/
def AllAllowed (leniency : Leniency) (notes : List Note) : Prop :=
  ∀ note ∈ notes, note.Allowed leniency

section AllAllowed

variable {leniency : Leniency} {note : Note} {notes notes' : List Note}

theorem allAllowed_nil : AllAllowed leniency [] :=
  fun _ member => absurd member List.not_mem_nil

theorem allAllowed_cons :
    AllAllowed leniency (note :: notes) ↔ note.Allowed leniency ∧ AllAllowed leniency notes :=
  List.forall_mem_cons

theorem allAllowed_append :
    AllAllowed leniency (notes ++ notes') ↔
      AllAllowed leniency notes ∧ AllAllowed leniency notes' :=
  List.forall_mem_append

theorem allAllowed_singleton : AllAllowed leniency [note] ↔ note.Allowed leniency :=
  List.forall_mem_singleton

theorem AllAllowed.mono {leniency' : Leniency} (allowed : AllAllowed leniency notes)
    (targets : leniency.targets → leniency'.targets) (errors : leniency.errors → leniency'.errors) :
    AllAllowed leniency' notes :=
  fun note member => (allowed note member).mono targets errors

end AllAllowed

/-- The grammar that derives errors only if there is one. -/
def Leniency.ifError (leniency : Leniency) (someError : Bool) : Leniency :=
  ⟨leniency.targets, leniency.errors ∧ someError = true⟩

theorem AllAllowed.or_left {leniency : Leniency} {notes : List Note} {someError : Bool}
    (allowed : AllAllowed (leniency.ifError someError) notes) (other : Bool) :
    AllAllowed (leniency.ifError (someError || other)) notes :=
  allowed.mono id fun ⟨errors, found⟩ => ⟨errors, by rw [found, Bool.true_or]⟩

theorem AllAllowed.or_right {leniency : Leniency} {notes : List Note} {someError : Bool}
    (allowed : AllAllowed (leniency.ifError someError) notes) (other : Bool) :
    AllAllowed (leniency.ifError (other || someError)) notes :=
  allowed.mono id fun ⟨errors, found⟩ => ⟨errors, by rw [found, Bool.or_true]⟩

variable {leniency leniency' : Leniency} {tokens : List Token} {expr : Expr} {stmt : Stmt}
  {stmts : List Stmt} {notes : List Note}

/-! ### A grammar allows the notes of what it derives -/

theorem Call.allAllowed (derived : Call tokens expr notes) : AllAllowed leniency notes := by
  induction derived with
  | primary _ => exact allAllowed_nil
  | call _ _ _ _ inductionHypothesis =>
    exact allAllowed_append.mpr ⟨inductionHypothesis, allAllowed_singleton.mpr trivial⟩

theorem Unary.allAllowed (derived : Unary tokens expr notes) : AllAllowed leniency notes := by
  induction derived with
  | call derived => exact derived.allAllowed
  | not _ _ inductionHypothesis => exact inductionHypothesis

theorem Chain.allAllowed {operators : List Kind} {join : Expr → Token → Expr → Expr}
    {operand : List Token → Expr → List Note → Prop}
    (each : ∀ {tokens expr notes}, operand tokens expr notes → AllAllowed leniency notes)
    (derived : Chain operators join operand tokens expr notes) : AllAllowed leniency notes := by
  induction derived with
  | operand derived => exact each derived
  | join _ _ derived inductionHypothesis =>
    exact allAllowed_append.mpr ⟨inductionHypothesis, each derived⟩

theorem Disjunction.allAllowed (derived : Disjunction tokens expr notes) :
    AllAllowed leniency notes :=
  Chain.allAllowed (Chain.allAllowed (Chain.allAllowed Unary.allAllowed)) derived

theorem Assignment.allAllowed (derived : Assignment leniency tokens expr notes) (errors : Prop) :
    AllAllowed ⟨leniency.targets, errors⟩ notes := by
  induction derived with
  | value derived => exact derived.allAllowed
  | assign _ _ _ inductionHypothesis => exact inductionHypothesis
  | dropped targets derived _ _ _ inductionHypothesis =>
    exact allAllowed_append.mpr ⟨derived.allAllowed,
      allAllowed_append.mpr ⟨inductionHypothesis, allAllowed_singleton.mpr targets⟩⟩

mutual

theorem Statement.allAllowed : ∀ {tokens stmt notes}, Statement leniency tokens stmt notes →
    AllAllowed (leniency.ifError stmt.containsError) notes
  | _, _, _, .expression derived _ => derived.allAllowed _
  | _, _, _, .print _ derived _ => derived.allAllowed _
  | _, _, _, .returns _ _ => allAllowed_nil
  | _, _, _, .returnsValue _ derived _ => derived.allAllowed _
  | _, _, _, .whileDo _ body => body.allAllowed
  | _, _, _, .ifThen _ body => body.allAllowed
  | _, _, _, .ifElse _ body _ _ otherwise =>
    allAllowed_append.mpr ⟨body.allAllowed.or_left _, otherwise.allAllowed.or_right _⟩
  | _, _, _, .block _ body _ => body.allAllowed

theorem Declaration.allAllowed : ∀ {tokens stmt notes}, Declaration leniency tokens stmt notes →
    AllAllowed (leniency.ifError stmt.containsError) notes
  | _, _, _, .function _ _ _ _ _ _ body _ => allAllowed_cons.mpr ⟨trivial, body.allAllowed⟩
  | _, _, _, .var _ _ _ => allAllowed_nil
  | _, _, _, .varValue _ _ _ derived _ => derived.allAllowed _
  | _, _, _, .statement derived => derived.allAllowed
  | _, _, _, .failed errors _ fatal =>
    allAllowed_singleton.mpr ⟨⟨errors, rfl⟩, _, List.mem_append_right _ List.mem_cons_self, fatal⟩

/-- A grammar allows the notes of what it derives, and a declaration that was given up leaves an
error in the statements. -/
theorem Declarations.allAllowed : ∀ {tokens stmts notes},
    Declarations leniency tokens stmts notes →
    AllAllowed (leniency.ifError (Stmt.anyContainsError stmts)) notes
  | _, _, _, .nil => allAllowed_nil
  | _, _, _, .cons first rest =>
    allAllowed_append.mpr ⟨first.allAllowed.or_left _, rest.allAllowed.or_right _⟩

end

/-! ### A grammar derives what it allows the notes of -/

theorem Assignment.of_allAllowed (derived : Assignment leniency tokens expr notes)
    (allowed : AllAllowed leniency' notes) : Assignment leniency' tokens expr notes := by
  induction derived with
  | value derived => exact .value derived
  | assign isName isBe _ inductionHypothesis =>
    exact .assign isName isBe (inductionHypothesis allowed)
  | dropped _ derived noName isBe _ inductionHypothesis =>
    obtain ⟨-, allowed'⟩ := allAllowed_append.mp allowed
    obtain ⟨allowed'', targets⟩ := allAllowed_append.mp allowed'
    exact .dropped (allAllowed_singleton.mp targets) derived noName isBe
      (inductionHypothesis allowed'')

mutual

theorem Statement.of_allAllowed : ∀ {tokens stmt notes}, Statement leniency tokens stmt notes →
    AllAllowed leniency' notes → Statement leniency' tokens stmt notes
  | _, _, _, .expression derived isSemicolon, allowed =>
    .expression (derived.of_allAllowed allowed) isSemicolon
  | _, _, _, .print isPrint derived isSemicolon, allowed =>
    .print isPrint (derived.of_allAllowed allowed) isSemicolon
  | _, _, _, .returns isReturn isSemicolon, _ => .returns isReturn isSemicolon
  | _, _, _, .returnsValue isReturn derived isSemicolon, allowed =>
    .returnsValue isReturn (derived.of_allAllowed allowed) isSemicolon
  | _, _, _, .whileDo isGuard body, allowed => .whileDo isGuard (body.of_allAllowed allowed)
  | _, _, _, .ifThen isGuard body, allowed => .ifThen isGuard (body.of_allAllowed allowed)
  | _, _, _, .ifElse isGuard body takesNone isElse otherwise, allowed =>
    .ifElse isGuard (body.of_allAllowed (allAllowed_append.mp allowed).1) takesNone isElse
      (otherwise.of_allAllowed (allAllowed_append.mp allowed).2)
  | _, _, _, .block isColon body isDot, allowed => .block isColon (body.of_allAllowed allowed) isDot

theorem Declaration.of_allAllowed : ∀ {tokens stmt notes},
    Declaration leniency tokens stmt notes → AllAllowed leniency' notes →
    Declaration leniency' tokens stmt notes
  | _, _, _, .function isTo isName isBefore isListed isAfter isColon body isDot, allowed =>
    .function isTo isName isBefore isListed isAfter isColon
      (body.of_allAllowed (allAllowed_cons.mp allowed).2) isDot
  | _, _, _, .var isLet isName isSemicolon, _ => .var isLet isName isSemicolon
  | _, _, _, .varValue isLet isName isBe derived isSemicolon, allowed =>
    .varValue isLet isName isBe (derived.of_allAllowed allowed) isSemicolon
  | _, _, _, .statement derived, allowed => .statement (derived.of_allAllowed allowed)
  | _, _, _, .failed _ member fatal, allowed =>
    .failed (allAllowed_singleton.mp allowed).1 member fatal

/-- A derivation is one of every grammar that allows its notes. -/
theorem Declarations.of_allAllowed : ∀ {tokens stmts notes},
    Declarations leniency tokens stmts notes → AllAllowed leniency' notes →
    Declarations leniency' tokens stmts notes
  | _, _, _, .nil, _ => .nil
  | _, _, _, .cons first rest, allowed =>
    .cons (first.of_allAllowed (allAllowed_append.mp allowed).1)
      (rest.of_allAllowed (allAllowed_append.mp allowed).2)

end

/-! ### What the reports tell -/

theorem mem_reports {note : Note} {report : Diagnostic} (noted : note ∈ notes)
    (member : report ∈ note.reports) : report ∈ reports notes :=
  List.mem_flatMap_of_mem noted member

/-- Without the report of a dropped target, and with no error in the statement, a derivation is one
of the language itself. -/
theorem Declaration.strict_of_reports (derived : Declaration leniency tokens stmt notes)
    (noError : stmt.containsError = false)
    (noTarget : ∀ report ∈ reports notes, report.fault.cause ≠ .badTarget) :
    Declaration .strict tokens stmt notes := by
  refine derived.of_allAllowed fun note noted => ?_
  have allowed := derived.allAllowed note noted
  cases note with
  | items _ _ => trivial
  | target be => exact absurd rfl (noTarget _ (mem_reports noted List.mem_cons_self))
  | failed reports =>
    obtain ⟨⟨-, found⟩, -⟩ := allowed
    rw [noError] at found
    cases found

/-- A derivation is as lenient as its reports say: one of a target that was dropped, or a fatal
one. -/
theorem Declarations.of_reports (derived : Declarations leniency tokens stmts notes)
    (targets : ∀ report ∈ reports notes, report.fault.cause = .badTarget → leniency'.targets)
    (errors : ∀ report ∈ reports notes, report.fault.cause.fatal = true → leniency'.errors) :
    Declarations leniency' tokens stmts notes := by
  refine derived.of_allAllowed fun note noted => ?_
  have allowed := derived.allAllowed note noted
  cases note with
  | items _ _ => trivial
  | target be => exact targets _ (mem_reports noted List.mem_cons_self) rfl
  | failed reports =>
    obtain ⟨-, report, member, fatal⟩ := allowed
    exact ⟨errors report (mem_reports noted member) fatal, report, member, fatal⟩

end Grammar

end Parlance
