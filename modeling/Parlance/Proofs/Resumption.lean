/-
This file says where reading is resumed after a failure. A declaration that fails passes over the
token at which it stopped, whatever this is, and from there on over all tokens up to the first place
where a statement may begin: behind a semicolon, in front of a token that begins a statement, or at
the end. The places of a list of tokens where this is so are described without a pass, and the place
where a failure leaves the pass is the least of those behind the failing token. This holds for every
declaration that is begun, one of the program as well as one in a body inside, and at the end token
the pass stays where it is.
-/

import Mathlib.Order.Bounds.Defs
import Parlance.Proofs.Unwinding

namespace Parlance

/-! ### Places where reading can be resumed -/

/-- Reading can be resumed in front of the token at an index: an end token, a token that begins a
statement, or any token behind a semicolon. -/
inductive Token.ResumesAt (all : List Token) : (index : Nat) → Prop
  | ended {index token} : all[index]? = some token → token.kind = .eof → ResumesAt all index
  | opener {index token} : all[index]? = some token → token.kind ∈ Kind.openers →
      ResumesAt all index
  | semicolon {index token} : all[index]? = some token → token.kind = .mark .semicolon →
      ResumesAt all (index + 1)

namespace Pass.Over

variable {pass : Pass} {all : List Token}

/-- Around the cursor only the previous and the current token say whether reading can be resumed. -/
theorem resumesAt_cursor_iff (isOver : pass.Over all) (started : pass.cursor ≠ 0) :
    Token.ResumesAt all pass.cursor ↔ pass.previous.kind = .mark .semicolon ∨
      pass.atEnd = true ∨ pass.current.kind ∈ Kind.openers := by
  have current := isOver.getElem?_cursor
  have previous := isOver.getElem?_previous
  constructor
  · intro resumes
    generalize same : pass.cursor = index at resumes current previous
    cases resumes with
    | ended found isEof =>
      obtain rfl := Option.some.inj (current.symm.trans found)
      exact .inr (.inl (decide_eq_true isEof))
    | opener found isOpener =>
      obtain rfl := Option.some.inj (current.symm.trans found)
      exact .inr (.inr isOpener)
    | semicolon found isSemicolon =>
      obtain rfl := Option.some.inj (previous.symm.trans found)
      exact .inl isSemicolon
  · rintro (isSemicolon | isEof | isOpener)
    · rw [← Nat.sub_one_add_one started]
      exact .semicolon previous isSemicolon
    · exact .ended current (of_decide_eq_true isEof)
    · exact .opener current isOpener

/-- Skipping stops at the first place where reading can be resumed. -/
theorem isLeast_skip (isOver : pass.Over all) (started : pass.cursor ≠ 0) :
    IsLeast {index | pass.cursor ≤ index ∧ Token.ResumesAt all index} pass.skip.cursor := by
  have here (pass : Pass) (isPlace : Token.ResumesAt all pass.cursor) :
      IsLeast {index | pass.cursor ≤ index ∧ Token.ResumesAt all index} pass.cursor :=
    ⟨⟨Nat.le_refl _, isPlace⟩, fun index isPlace => isPlace.1⟩
  fun_induction skip pass with
  | case1 pass ended =>
    exact here pass ((isOver.resumesAt_cursor_iff started).mpr (.inr (.inl ended)))
  | case2 pass _ isSemicolon =>
    exact here pass ((isOver.resumesAt_cursor_iff started).mpr (.inl isSemicolon))
  | case3 pass _ _ isOpener =>
    exact here pass ((isOver.resumesAt_cursor_iff started).mpr (.inr (.inr isOpener)))
  | case4 pass notAtEnd notSemicolon notOpener inductionHypothesis =>
    have some : pass.ahead ≠ [] := fun ahead => notAtEnd (atEnd_eq_true_iff.mpr ahead)
    obtain ⟨token, rest, ahead⟩ := List.exists_cons_of_ne_nil some
    have reads := reads_advance ahead
    have cursor : pass.advance.cursor = pass.cursor + 1 := reads.cursor
    have notHere : ¬ Token.ResumesAt all pass.cursor := by
      rw [isOver.resumesAt_cursor_iff started]
      exact not_or.mpr ⟨notSemicolon, not_or.mpr ⟨notAtEnd, notOpener⟩⟩
    obtain ⟨⟨farther, resumes⟩, first⟩ :=
      inductionHypothesis (isOver.onward (.of_reads reads)) (cursor ▸ Nat.succ_ne_zero _)
    rw [cursor] at farther
    refine ⟨⟨Nat.le_of_succ_le farther, resumes⟩, fun index isPlace => first ⟨?_, isPlace.2⟩⟩
    rw [cursor]
    refine Nat.lt_of_le_of_ne isPlace.1 ?_
    rintro rfl
    exact notHere isPlace.2

/-- Synchronizing stops at the first place behind the current token where reading can be
resumed. -/
theorem isLeast_synchronize (isOver : pass.Over all) (some : pass.ahead ≠ []) :
    IsLeast {index | pass.cursor < index ∧ Token.ResumesAt all index} pass.synchronize.cursor := by
  obtain ⟨token, rest, ahead⟩ := List.exists_cons_of_ne_nil some
  have reads := reads_advance ahead
  have cursor : pass.advance.cursor = pass.cursor + 1 := reads.cursor
  have skips := (isOver.onward (.of_reads reads)).isLeast_skip (cursor ▸ Nat.succ_ne_zero _)
  rw [cursor] at skips
  exact skips

end Pass.Over

/-! ### Failures -/

/-- Every declaration that is begun and fails becomes an error for the token at which it stopped. If
this is the end token the pass stays there. Otherwise it is passed over, and the pass is left at
the least of all farther indices where reading can be resumed. Whatever is read next therefore
begins at such a place. -/
theorem Program.resumes_behind_failure (tokens : List Token) (file : String) (failure : Failure)
    (begins : Pass.Begins Pass.atEnd (Pass.start tokens file) failure.begun) :
    let all := Token.closed tokens file
    let eofIndex := all.findIdx (·.kind = .eof)
    let next := failure.begun.declaration.2
    (∃ token, failure.begun.declaration.1 = .error token ∧ all[failure.index]? = some token) ∧
    failure.begun.cursor ≤ failure.index ∧ failure.index ≤ eofIndex ∧
    (failure.index = eofIndex → next.cursor = failure.index) ∧
    (failure.index ≠ eofIndex →
      IsLeast {index | failure.index < index ∧ Token.ResumesAt all index} next.cursor) ∧
    Token.ResumesAt all next.cursor := by
  intro all eofIndex next
  let reported := failure.stopped.reportFault failure.stopped.current failure.fault
  have same : failure.begun.declaration = (.error failure.stopped.current, reported.synchronize) :=
    Pass.recover_of_error failure.failed
  have isNext : next = reported.synchronize := congrArg Prod.snd same
  have toFailure := ((Rule.progress_byRule _).failed failure.failed).1
  have isOver : failure.stopped.Over all :=
    (Pass.Over.start tokens file).onward (.of_moves (begins.moves.trans toFailure))
  refine ⟨⟨failure.stopped.current, congrArg Prod.fst same, isOver.getElem?_cursor⟩,
    toFailure.cursor_le, isOver.cursor_le, ?_⟩
  rw [isNext]
  by_cases ended : failure.stopped.ahead = []
  · have stays : reported.synchronize = reported := Pass.synchronize_of_nil ended
    have isEnd : failure.index = eofIndex := isOver.atEnd_iff.mp ended
    rw [stays]
    refine ⟨fun _ => rfl, fun other => absurd isEnd other, ?_⟩
    exact .ended isOver.getElem?_cursor (Pass.kind_current_of_nil ended)
  · have notEnd : failure.index ≠ eofIndex := fun isEnd => ended (isOver.atEnd_iff.mpr isEnd)
    have reportedOver : reported.Over all :=
      isOver.onward (.of_reads (Pass.reads_reportFault _ _ _))
    have least := reportedOver.isLeast_synchronize ended
    exact ⟨fun isEnd => absurd isEnd notEnd, fun _ => least, least.1.2⟩

/-- Inside a function a value is missing at the word `if`. The word is passed over although a
statement could begin with it, and so is all up to the semicolon. -/
theorem Program.resumes_behind_failure_keyword :
    let tokens := [.ofWord .to_, .ofName "f", .ofMark .emDash, .ofMark .emDash, .ofMark .colon,
      .ofWord .say, .ofWord .if_, .ofName "x", .ofMark .semicolon, .ofWord .say, .ofName "y",
      .ofMark .semicolon, .ofMark .dot, Token.bare .eof "EOF"]
    ∃ failure : Failure,
      Pass.Begins Pass.atEnd (Pass.start tokens "f") failure.begun ∧ failure.index = 6 ∧
      failure.begun.declaration.1 = .error (.ofWord .if_) ∧
      failure.begun.declaration.2.cursor = 9 ∧
      IsLeast {index | 6 < index ∧ Token.ResumesAt tokens index} 9 := by
  intro tokens
  let first := Pass.start tokens "f"
  let opened : Pass := { first with cursor := 5, inside := by decide }
  let stopped : Pass := { first with cursor := 6, inside := by decide }
  let word : Token := .ofWord .if_
  let failure : Failure := ⟨opened, stopped, word.fault (.noExpression "if"), by cbv⟩
  have isHead : Reading.functionHead first = .ok (.ofName "f", []) opened := by cbv
  have begins : Pass.Begins Pass.atEnd first failure.begun :=
    .inside rfl (.function isHead) (.here rfl)
  obtain ⟨-, -, -, -, least, -⟩ := resumes_behind_failure tokens "f" failure begins
  have cursor : failure.begun.declaration.2.cursor = 9 := by decide +kernel
  have place := least (by decide)
  rw [cursor] at place
  exact ⟨failure, begins, rfl, by cbv, cursor, place⟩

end Parlance
