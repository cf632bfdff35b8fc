/-
This file proves that a program is read in slices. The declarations of a program cut its tokens, up
to the first end token, into slices that follow each other without a gap, none of them empty, and
each slice makes one statement. If the statement has no error in it and no target of an assignment
was dropped from it, then the slice derives it in the grammar of the language, and what was reported
meanwhile are the lists that are too long. If nothing at all was reported, then all tokens together
derive the program.
-/

import Parlance.Program
import Parlance.Proofs.Leniency
import Parlance.Proofs.Soundness

namespace Parlance

open Grammar

namespace Pass

/-- The pass behind a number of declarations. -/
def after (pass : Pass) : (count : Nat) → Pass
  | 0 => pass
  | count + 1 => (pass.after count).declaration.2

variable {pass : Pass}

/-! ### One declaration after another -/

theorem after_succ (pass : Pass) (count : Nat) :
    pass.after (count + 1) = pass.declaration.2.after count := by
  induction count with
  | zero => rfl
  | succ count inductionHypothesis =>
    show (pass.after (count + 1)).declaration.2 = (pass.declaration.2.after count).declaration.2
    rw [inductionHypothesis]

theorem moves_after (pass : Pass) (count : Nat) :
    pass.Moves (fun _ => True) (pass.after count) := by
  induction count with
  | zero => exact Moves.refl pass
  | succ count inductionHypothesis =>
    exact inductionHypothesis.trans (moves_declaration _)

theorem Standard.after (standard : pass.Standard) (count : Nat) : (pass.after count).Standard := by
  obtain ⟨tokens, reports, reads, -⟩ := moves_after pass count
  exact standard.of_reads reads

/-- Reading all declarations ends behind the last of them. -/
theorem after_declarations (pass : Pass) :
    pass.after pass.declarations.1.length = pass.declarations.2 := by
  induction pass using declarations_induction with
  | ended pass ahead =>
    rw [declarations_of_nil ahead]
    rfl
  | step pass some inductionHypothesis =>
    rw [declarations_of_ne_nil some, List.length_cons, after_succ]
    exact inductionHypothesis

/-- Each statement is what was read from where the ones before it ended. -/
theorem getElem?_declarations (pass : Pass) {index : Nat} {stmt : Stmt}
    (found : pass.declarations.1[index]? = some stmt) :
    stmt = (pass.after index).declaration.1 ∧ (pass.after index).ahead ≠ [] := by
  induction pass using declarations_induction generalizing index with
  | ended pass ahead =>
    rw [declarations_of_nil ahead] at found
    cases found
  | step pass some inductionHypothesis =>
    rw [declarations_of_ne_nil some] at found
    cases index with
    | zero =>
      cases found
      exact ⟨rfl, some⟩
    | succ index =>
      rw [after_succ]
      exact inductionHypothesis found

/-! ### Slices -/

/-- What is read between two passes is the slice of the tokens between their cursors. -/
theorem extract_of_reads {middle next : Pass} {tokens read slice : List Token} {file : String}
    {reports reports' : List Diagnostic} (before : (start tokens file).Reads read reports middle)
    (reads : middle.Reads slice reports' next) :
    tokens.extract middle.cursor next.cursor = slice := by
  have whole : tokens = read ++ (slice ++ (next.ahead ++ tokens.dropWhile (·.kind ≠ .eof))) := by
    have ahead : tokens.takeWhile (·.kind ≠ .eof) = read ++ (slice ++ next.ahead) := by
      rw [← (ahead_start tokens file).1, before.ahead, reads.ahead]
    rw [← List.append_assoc slice, ← List.append_assoc read, ← ahead,
      List.takeWhile_append_dropWhile]
  have length : middle.cursor = read.length := by
    rw [before.cursor]
    exact Nat.zero_add _
  rw [List.extract_eq_take_drop, reads.cursor, Nat.add_sub_cancel_left, length, whole,
    List.drop_left, List.take_left]

/-- The tokens ahead of a pass that starts are those up to the first end token. -/
theorem length_ahead_start (tokens : List Token) (file : String) :
    (start tokens file).ahead.length = tokens.findIdx (·.kind = .eof) := by
  have same : (fun token : Token => !decide (token.kind ≠ .eof)) =
      fun token : Token => decide (token.kind = .eof) := by
    funext token
    by_cases isEof : token.kind = .eof <;> simp [isEof]
  rw [(ahead_start tokens file).1, List.takeWhile_eq_take_findIdx_not, same, List.length_take,
    Nat.min_eq_left List.findIdx_le_length]

/-- A pass with no token left has read all that were ahead. -/
theorem Reads.cursor_of_nil {next : Pass} {tokens : List Token} {reports : List Diagnostic}
    (reads : pass.Reads tokens reports next) (ended : next.ahead = []) :
    next.cursor = pass.cursor + pass.ahead.length := by
  rw [reads.cursor, reads.ahead, ended, List.append_nil]

/-- What one declaration reads is not empty, and derives the statement in the grammar of the
language if the statement has no error in it and no target was dropped from it. -/
theorem exists_slice (standard : pass.Standard) (some : pass.ahead ≠ []) :
    ∃ slice reports, slice ≠ [] ∧ pass.Reads slice reports pass.declaration.2 ∧
      (pass.declaration.1.containsError = false →
        (∀ report ∈ reports, report.fault.cause ≠ .badTarget) →
        ∃ notes, Declaration .strict slice pass.declaration.1 notes ∧
          reports = Grammar.reports notes) := by
  have shorter := left_declaration_lt some
  have notEmpty {slice : List Token} {reports : List Diagnostic}
      (reads : pass.Reads slice reports pass.declaration.2) : slice ≠ [] := by
    rintro rfl
    exact absurd reads.left_add_length (Nat.ne_of_lt shorter)
  cases slot_declaration standard with
  | read derived reads =>
    exact ⟨_, _, notEmpty reads, reads, fun noError noTarget =>
      ⟨_, derived.strict_of_reports noError noTarget, rfl⟩⟩
  | ended isError _ _ reads =>
    refine ⟨_, _, notEmpty reads, reads, fun noError => ?_⟩
    rw [isError] at noError
    cases noError

end Pass

/-! ### Whole programs -/

/-- A program is read in slices, one for each statement, from the first token up to the first end
token. A slice derives its statement if this has no error in it and no target was dropped while it
was read, and all tokens derive the program if nothing was reported. -/
theorem Program.ofTokens_sound (tokens : List Token) (file : String) :
    let program := ofTokens tokens file
    let pass := Pass.start tokens file
    (pass.after 0).cursor = 0 ∧
    (pass.after program.statements.length).cursor = tokens.findIdx (·.kind = .eof) ∧
    (pass.after program.statements.length).log = program.log ∧
    (∀ index stmt, program.statements[index]? = some stmt →
      stmt = (pass.after index).declaration.1 ∧
      (pass.after index).cursor < (pass.after (index + 1)).cursor ∧
      ∃ reports,
        (pass.after (index + 1)).log.reported = (pass.after index).log.reported ++ reports ∧
        (stmt.containsError = false → (∀ report ∈ reports, report.fault.cause ≠ .badTarget) →
          ∃ notes, reports = Grammar.reports notes ∧
            Declaration .strict
              (tokens.extract (pass.after index).cursor (pass.after (index + 1)).cursor)
              stmt notes)) ∧
    (program.log.reported = [] →
      ∃ notes,
        Declarations .strict (tokens.takeWhile (·.kind ≠ .eof)) program.statements notes) := by
  intro program pass
  have standard : pass.Standard := Pass.standard_start tokens file
  have last := Pass.after_declarations pass
  refine ⟨rfl, ?_, congrArg Pass.log last, fun index stmt found => ?_, fun clean => ?_⟩
  · obtain ⟨read, reports, reads, -⟩ := Pass.moves_after pass program.statements.length
    rw [reads.cursor_of_nil ((congrArg Pass.ahead last).trans (Pass.ahead_declarations pass)),
      Pass.length_ahead_start]
    exact Nat.zero_add _
  · obtain ⟨rfl, some⟩ := Pass.getElem?_declarations pass found
    obtain ⟨slice, reports, notEmpty, reads, derives⟩ :=
      Pass.exists_slice (standard.after index) some
    obtain ⟨read, reports', before, -⟩ := Pass.moves_after pass index
    have length := reads.cursor
    have positive := List.length_pos_iff.mpr notEmpty
    have extract :
        tokens.extract (pass.after index).cursor (pass.after (index + 1)).cursor = slice :=
      Pass.extract_of_reads before reads
    refine ⟨rfl, ?_, reports, reads.log, fun noError noTarget => ?_⟩
    · show (pass.after index).cursor < (pass.after index).declaration.2.cursor
      omega
    · obtain ⟨notes, derived, reported⟩ := derives noError noTarget
      exact ⟨notes, reported, extract ▸ derived⟩
  · have none : ∀ report ∈ pass.declarations.2.log.reported, False := by
      intro report member
      have member' : report ∈ program.log.reported := member
      rw [clean] at member'
      cases member'
    obtain ⟨notes, derived, reported⟩ :=
      Pass.exists_derivation standard rfl fun report member => (none report member).elim
    rw [← reported] at none
    rw [← (Pass.ahead_start tokens file).1]
    exact ⟨notes, derived.of_reports (fun report member _ => none report member)
      fun report member _ => none report member⟩

end Parlance
