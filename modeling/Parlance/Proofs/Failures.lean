/-
This file proves that no failure is lost between the tree and the log. A declaration that fails is
reported with a fatal cause and leaves an error in the tree, but the error does not always stay:
when a block or function around it fails too, one error for the whole takes the place of all that
was read inside. So a program has an error in it exactly if something fatal was reported of it,
while its errors in the order of the source are only some of the fatal reports in the order of the
log.
-/

import Parlance.Program
import Parlance.Proofs.Leniency
import Parlance.Proofs.Soundness

namespace Parlance

/-! ### The errors in a tree -/

namespace Stmt

mutual

/-- The tokens of the errors in a statement, from left to right. -/
def errorTokens : Stmt → List Token
  | error token => [token]
  | block body => allErrorTokens body
  | function _ _ body => allErrorTokens body
  | ifThen _ body => errorTokens body
  | ifElse _ body otherwise => errorTokens body ++ errorTokens otherwise
  | whileDo _ body => errorTokens body
  | _ => []

/-- The tokens of the errors in several statements, from left to right. -/
def allErrorTokens : List Stmt → List Token
  | [] => []
  | stmt :: rest => errorTokens stmt ++ allErrorTokens rest

end

mutual

theorem containsError_eq_false_iff :
    ∀ stmt : Stmt, stmt.containsError = false ↔ stmt.errorTokens = []
  | error _ => iff_of_false Bool.noConfusion (List.cons_ne_nil _ _)
  | block body => anyContainsError_eq_false_iff body
  | function _ _ body => anyContainsError_eq_false_iff body
  | ifThen _ body => containsError_eq_false_iff body
  | ifElse _ body otherwise => by
    rw [containsError, errorTokens, Bool.or_eq_false_iff, List.append_eq_nil_iff,
      containsError_eq_false_iff body, containsError_eq_false_iff otherwise]
  | whileDo _ body => containsError_eq_false_iff body
  | expression _ => iff_of_true rfl rfl
  | print _ => iff_of_true rfl rfl
  | var _ _ => iff_of_true rfl rfl
  | returns _ _ => iff_of_true rfl rfl

theorem anyContainsError_eq_false_iff :
    ∀ stmts : List Stmt, anyContainsError stmts = false ↔ allErrorTokens stmts = []
  | [] => iff_of_true rfl rfl
  | stmt :: rest => by
    rw [anyContainsError, allErrorTokens, Bool.or_eq_false_iff, List.append_eq_nil_iff,
      containsError_eq_false_iff stmt, anyContainsError_eq_false_iff rest]

end

theorem anyContainsError_eq (stmts : List Stmt) :
    anyContainsError stmts = stmts.any containsError := by
  induction stmts with
  | nil => rfl
  | cons stmt rest inductionHypothesis =>
    rw [anyContainsError, inductionHypothesis, List.any_cons]

/-- One of several statements has an error in it exactly if there is a token of an error. -/
theorem exists_containsError_iff (stmts : List Stmt) :
    (∃ stmt ∈ stmts, stmt.containsError = true) ↔ allErrorTokens stmts ≠ [] := by
  rw [ne_eq, ← anyContainsError_eq_false_iff, Bool.not_eq_false, anyContainsError_eq,
    List.any_eq_true]

end Stmt

/-! ### The fatal reports of a log -/

/-- The tokens of the fatal reports, in the order of the reports. -/
def fatalTokens (reports : List Diagnostic) : List Token :=
  (reports.filter (·.fault.cause.fatal)).map Diagnostic.token

theorem fatalTokens_append (reports reports' : List Diagnostic) :
    fatalTokens (reports ++ reports') = fatalTokens reports ++ fatalTokens reports' := by
  rw [fatalTokens, List.filter_append, List.map_append]
  rfl

theorem exists_fatal_iff (reports : List Diagnostic) :
    (∃ report ∈ reports, report.fault.cause.fatal = true) ↔ fatalTokens reports ≠ [] := by
  rw [fatalTokens, ne_eq, List.map_eq_nil_iff, List.filter_eq_nil_iff]
  simp

/-- The report with which a declaration is given up is the last fatal one. -/
theorem fatalTokens_snoc {token : Token} {fault : Fault} (fatal : fault.cause.fatal = true)
    (reports : List Diagnostic) :
    fatalTokens (reports ++ [⟨token, fault⟩]) = fatalTokens reports ++ [token] := by
  rw [fatalTokens_append]
  simp [fatalTokens, fatal]

namespace Grammar

variable {leniency : Leniency} {tokens : List Token} {notes : List Note}

theorem fatalTokens_reports_append (notes notes' : List Note) :
    fatalTokens (reports (notes ++ notes')) =
      fatalTokens (reports notes) ++ fatalTokens (reports notes') := by
  rw [reports_append, fatalTokens_append]

/-- Only a declaration that was given up is reported with a fatal cause. -/
theorem Note.eq_failed_of_fatal {note : Note} {report : Diagnostic}
    (member : report ∈ note.reports) (fatal : report.fault.cause.fatal = true) :
    note = .failed note.reports := by
  cases note with
  | items what list =>
    obtain ⟨token, -, rfl⟩ := Option.map_eq_some_iff.mp (Option.mem_toList.mp member)
    cases fatal
  | target be =>
    rw [List.mem_singleton.mp member] at fatal
    cases fatal
  | failed reports => rfl

/-! ### Every failure leaves an error -/

/-- Without an error in the statements nothing fatal was reported of them. -/
theorem Declarations.fatalTokens_eq_nil {stmts : List Stmt}
    (derived : Declarations leniency tokens stmts notes)
    (noError : Stmt.allErrorTokens stmts = []) : fatalTokens (reports notes) = [] := by
  refine Classical.byContradiction fun some => ?_
  obtain ⟨report, member, fatal⟩ := (exists_fatal_iff _).mpr some
  obtain ⟨note, noted, member⟩ := List.mem_flatMap.mp member
  have allowed := derived.allAllowed note noted
  rw [Note.eq_failed_of_fatal member fatal] at allowed
  have found := allowed.1.2
  rw [(Stmt.anyContainsError_eq_false_iff stmts).mpr noError] at found
  cases found

/-! ### Every error is a failure -/

mutual

theorem Statement.errorTokens_sublist : ∀ {tokens stmt notes},
    Statement leniency tokens stmt notes →
    stmt.errorTokens.Sublist (fatalTokens (reports notes))
  | _, _, _, .expression _ _ => List.nil_sublist _
  | _, _, _, .print _ _ _ => List.nil_sublist _
  | _, _, _, .returns _ _ => List.nil_sublist _
  | _, _, _, .returnsValue _ _ _ => List.nil_sublist _
  | _, _, _, .whileDo _ body => body.errorTokens_sublist
  | _, _, _, .ifThen _ body => body.errorTokens_sublist
  | _, _, _, .ifElse _ body _ _ otherwise => by
    rw [fatalTokens_reports_append]
    exact body.errorTokens_sublist.append otherwise.errorTokens_sublist
  | _, _, _, .block _ body _ => body.errorTokens_sublist

theorem Declaration.errorTokens_sublist : ∀ {tokens stmt notes},
    Declaration leniency tokens stmt notes →
    stmt.errorTokens.Sublist (fatalTokens (reports notes))
  | _, _, _, .function _ _ _ _ _ _ body _ => by
    rw [reports_cons, fatalTokens_append]
    exact List.sublist_append_of_sublist_right body.errorTokens_sublist
  | _, _, _, .var _ _ _ => List.nil_sublist _
  | _, _, _, .varValue _ _ _ _ _ => List.nil_sublist _
  | _, _, _, .statement derived => derived.errorTokens_sublist
  | _, _, _, .failed _ _ fatal => by
    -- Of all that was reported meanwhile only the last report still has its error.
    rw [reports_singleton, Note.reports, fatalTokens_snoc fatal]
    exact List.sublist_append_right _ _

/-- The errors in statements are among the fatal reports, in the same order. -/
theorem Declarations.errorTokens_sublist : ∀ {tokens stmts notes},
    Declarations leniency tokens stmts notes →
    (Stmt.allErrorTokens stmts).Sublist (fatalTokens (reports notes))
  | _, _, _, .nil => List.Sublist.refl _
  | _, _, _, .cons first rest => by
    rw [fatalTokens_reports_append]
    exact first.errorTokens_sublist.append rest.errorTokens_sublist

end

end Grammar

/-! ### Whole programs -/

/-- Reports and statements tell of the same failures: without an error nothing fatal was reported,
and the errors are among the fatal reports. -/
structure Accounted (stmts : List Stmt) (reports : List Diagnostic) : Prop where
  nil_of_nil : Stmt.allErrorTokens stmts = [] → fatalTokens reports = []
  sublist : (Stmt.allErrorTokens stmts).Sublist (fatalTokens reports)

namespace Accounted

variable {stmt : Stmt} {stmts : List Stmt} {reports reports' : List Diagnostic}

theorem cons (first : Accounted [stmt] reports) (second : Accounted stmts reports') :
    Accounted (stmt :: stmts) (reports ++ reports') := by
  obtain ⟨nil, sublist⟩ := first
  rw [Stmt.allErrorTokens, Stmt.allErrorTokens, List.append_nil] at nil sublist
  refine ⟨fun noError => ?_, ?_⟩
  · obtain ⟨noFirst, noSecond⟩ := List.append_eq_nil_iff.mp noError
    rw [fatalTokens_append, nil noFirst, second.nil_of_nil noSecond, List.append_nil]
  · rw [fatalTokens_append]
    exact sublist.append second.sublist

theorem exists_fatal_iff (accounted : Accounted stmts reports) :
    (∃ report ∈ reports, report.fault.cause.fatal = true) ↔
      ∃ stmt ∈ stmts, stmt.containsError = true := by
  rw [Parlance.exists_fatal_iff, Stmt.exists_containsError_iff]
  refine not_congr ⟨fun noFatal => ?_, accounted.nil_of_nil⟩
  exact List.sublist_nil.mp (noFatal ▸ accounted.sublist)

end Accounted

namespace Pass

open Grammar

variable {pass next : Pass} {stmt : Stmt} {stmts : List Stmt}

theorem Slot.accounted (slot : Slot pass stmt next) :
    ∃ tokens reports, pass.Reads tokens reports next ∧ Accounted [stmt] reports := by
  cases slot with
  | read derived reads =>
    have derived := Declarations.cons derived .nil
    rw [List.append_nil, List.append_nil] at derived
    exact ⟨_, _, reads, derived.fatalTokens_eq_nil, derived.errorTokens_sublist⟩
  | ended isError _ fatal reads =>
    subst isError
    refine ⟨_, _, reads, fun noError => absurd noError (List.cons_ne_nil _ _), ?_⟩
    rw [fatalTokens_snoc fatal]
    exact List.sublist_append_right _ _

theorem Slots.accounted (slots : Slots pass stmts next) :
    ∃ tokens reports, pass.Reads tokens reports next ∧ Accounted stmts reports := by
  induction slots with
  | nil => exact ⟨[], [], Reads.refl _, fun _ => rfl, List.Sublist.refl _⟩
  | cons slot _ inductionHypothesis =>
    obtain ⟨tokens, reports, reads, accounted⟩ := slot.accounted
    obtain ⟨tokens', reports', reads', accounted'⟩ := inductionHypothesis
    exact ⟨_, _, reads.trans reads', accounted.cons accounted'⟩

end Pass

/-- Something fatal is reported of a program exactly if one of its statements has an error in it,
and the tokens of its errors, from left to right, are some of the tokens of the fatal reports in the
order of the log. -/
theorem Program.fatal_iff_containsError (tokens : List Token) (file : String) :
    let program := ofTokens tokens file
    ((∃ report ∈ program.log.reported, report.fault.cause.fatal = true) ↔
        ∃ stmt ∈ program.statements, stmt.containsError = true) ∧
      (Stmt.allErrorTokens program.statements).Sublist
        ((program.log.reported.filter (·.fault.cause.fatal)).map Diagnostic.token) := by
  intro program
  obtain ⟨read, reports, reads, accounted⟩ :=
    (Pass.slots_declarations (Pass.standard_start tokens file)).accounted
  have log : program.log.reported = reports := reads.log
  rw [log]
  exact ⟨accounted.exists_fatal_iff, accounted.sublist⟩

end Parlance
