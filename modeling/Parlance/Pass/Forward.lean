/-
This file says what every reading does to a pass, whether it gives a value or fails: it gets forward
over tokens that stood ahead and adds to the log, and when it fails it does so at the token where it
stops, with a cause that ends the declaration. A reading that only gives a value when it has read a
token makes progress; this is what brings each loop of a pass to its end. A reading of an expression
only gets over tokens that expressions are made of, so never over a semicolon.
-/

import Parlance.Pass.Reads

namespace Parlance

/-- Whether a cause ends the declaration in which it is found. -/
def Cause.fatal : Cause → Bool
  | .missing _ _ => true
  | .noExpression _ => true
  | .badNumber _ => true
  | _ => false

/-- The kinds of token that expressions and lists of parameters are made of. -/
def Kind.inner : List Kind :=
  [.number, .string, .identifier, .word .true_, .word .false_, .word .nothing, .mark .emDash,
    .mark .comma, .word .not, .word .is, .word .am, .word .are, .word .and, .word .or, .word .be]

/-- A pass gets to another one over tokens of allowed kinds. -/
def Pass.Moves (allowed : Kind → Prop) (pass next : Pass) : Prop :=
  ∃ tokens reports, pass.Reads tokens reports next ∧ ∀ token ∈ tokens, allowed token.kind

namespace Pass.Moves

variable {allowed : Kind → Prop} {pass middle next : Pass}

theorem refl (pass : Pass) : pass.Moves allowed pass :=
  ⟨[], [], Reads.refl pass, fun _ member => absurd member List.not_mem_nil⟩

theorem trans (first : pass.Moves allowed middle) (second : middle.Moves allowed next) :
    pass.Moves allowed next := by
  obtain ⟨tokens, reports, reads, kinds⟩ := first
  obtain ⟨tokens', reports', reads', kinds'⟩ := second
  refine ⟨tokens ++ tokens', reports ++ reports', reads.trans reads', fun token member => ?_⟩
  rcases List.mem_append.mp member with member | member
  · exact kinds token member
  · exact kinds' token member

theorem any (moves : pass.Moves allowed next) : pass.Moves (fun _ => True) next := by
  obtain ⟨tokens, reports, reads, -⟩ := moves
  exact ⟨tokens, reports, reads, fun _ _ => trivial⟩

theorem of_token {token : Token} (reads : pass.Reads [token] [] next) (kind : allowed token.kind) :
    pass.Moves allowed next := by
  refine ⟨[token], [], reads, fun other member => ?_⟩
  rw [List.mem_singleton.mp member]
  exact kind

theorem of_report {reports : List Diagnostic} (reads : pass.Reads [] reports next) :
    pass.Moves allowed next :=
  ⟨[], reports, reads, fun _ member => absurd member List.not_mem_nil⟩

theorem left_le (moves : pass.Moves allowed next) : next.left ≤ pass.left := by
  obtain ⟨tokens, reports, reads, -⟩ := moves
  exact reads.left_le

theorem cursor_le (moves : pass.Moves allowed next) : pass.cursor ≤ next.cursor := by
  obtain ⟨tokens, reports, reads, -⟩ := moves
  rw [reads.cursor]
  exact Nat.le_add_right _ _

theorem ahead_eq_nil (moves : pass.Moves allowed next) (ended : pass.ahead = []) :
    next.ahead = [] := by
  obtain ⟨tokens, reports, reads, -⟩ := moves
  have ahead := reads.ahead
  rw [ended] at ahead
  exact (List.append_eq_nil_iff.mp ahead.symm).2

end Pass.Moves

/-! ### Outcomes -/

/-- The value or the fault of a reading, and the pass behind it. -/
abbrev Outcome (α : Type) := EStateM.Result Fault Pass α

namespace Outcome

variable {α : Type}

/-- From a pass an outcome has got forward over tokens of allowed kinds. A failure is one with a
fatal cause at the token where the reading stopped. -/
structure Forward (allowed : Kind → Prop) (pass : Pass) (outcome : Outcome α) : Prop where
  done : ∀ {value next}, outcome = .ok value next → pass.Moves allowed next
  failed : ∀ {fault next}, outcome = .error fault next → pass.Moves allowed next ∧
    ∃ cause, cause.fatal = true ∧ fault = next.current.fault cause

/-- From a pass an outcome has got forward, and over a token at least if there is a value. -/
structure Progress (allowed : Kind → Prop) (pass : Pass) (outcome : Outcome α) : Prop
    extends Forward allowed pass outcome where
  consumes : ∀ {value next}, outcome = .ok value next → next.left < pass.left

end Outcome

namespace Reading

variable {α β : Type} {allowed : Kind → Prop} {reading : Reading α} {continuation : α → Reading β}
  {pass next : Pass}

/-- A reading that gets every pass forward. -/
def Forward (allowed : Kind → Prop) (reading : Reading α) : Prop :=
  ∀ pass, Outcome.Forward allowed pass (reading pass)

/-- A reading that gets every pass forward, and only gives a value when it has read a token. -/
def Progress (allowed : Kind → Prop) (reading : Reading α) : Prop :=
  ∀ pass, Outcome.Progress allowed pass (reading pass)

theorem Forward.done (forward : reading.Forward allowed) {value : α}
    (done : reading pass = .ok value next) : pass.Moves allowed next :=
  (forward pass).done done

theorem Forward.failed (forward : reading.Forward allowed) {fault : Fault}
    (failed : reading pass = .error fault next) : pass.Moves allowed next ∧
      ∃ cause, cause.fatal = true ∧ fault = next.current.fault cause :=
  (forward pass).failed failed

theorem Progress.toForward (progress : reading.Progress allowed) : reading.Forward allowed :=
  fun pass => (progress pass).toForward

theorem Progress.done (progress : reading.Progress allowed) {value : α}
    (done : reading pass = .ok value next) : pass.Moves allowed next :=
  progress.toForward.done done

theorem Progress.failed (progress : reading.Progress allowed) {fault : Fault}
    (failed : reading pass = .error fault next) : pass.Moves allowed next ∧
      ∃ cause, cause.fatal = true ∧ fault = next.current.fault cause :=
  progress.toForward.failed failed

theorem Progress.consumes (progress : reading.Progress allowed) {value : α}
    (done : reading pass = .ok value next) : next.left < pass.left :=
  (progress pass).consumes done

/-- Which kinds a reading gets over can be forgotten. -/
theorem Forward.any (forward : reading.Forward allowed) : reading.Forward fun _ => True :=
  fun _ => ⟨fun done => (forward.done done).any,
    fun failed => ⟨(forward.failed failed).1.any, (forward.failed failed).2⟩⟩

theorem Progress.any (progress : reading.Progress allowed) : reading.Progress fun _ => True :=
  fun pass => ⟨progress.toForward.any pass, fun done => progress.consumes done⟩

theorem forward_pure (value : α) : Forward allowed (pure value : Reading α) := by
  refine fun pass => ⟨fun done => ?_, fun failed => ?_⟩
  · obtain ⟨-, rfl⟩ := pure_eq_ok done
    exact Pass.Moves.refl pass
  · rw [pure_apply] at failed
    cases failed

theorem Forward.bind (first : reading.Forward allowed)
    (second : ∀ value, (continuation value).Forward allowed) :
    Forward allowed (reading >>= continuation) := by
  refine fun pass => ⟨fun done => ?_, fun failed => ?_⟩
  · obtain ⟨value, middle, done, done'⟩ := bind_eq_ok done
    exact (first.done done).trans ((second value).done done')
  · rcases bind_eq_error failed with failed | ⟨value, middle, done, failed⟩
    · exact first.failed failed
    · obtain ⟨moves, cause⟩ := (second value).failed failed
      exact ⟨(first.done done).trans moves, cause⟩

theorem Forward.bind_progress (first : reading.Forward allowed)
    (second : ∀ value, (continuation value).Progress allowed) :
    Progress allowed (reading >>= continuation) := by
  have forward := first.bind fun value => (second value).toForward
  refine fun pass => ⟨forward pass, fun done => ?_⟩
  obtain ⟨value, middle, done, done'⟩ := bind_eq_ok done
  exact Nat.lt_of_lt_of_le ((second value).consumes done') (first.done done).left_le

theorem Progress.bind (first : reading.Progress allowed)
    (second : ∀ value, (continuation value).Forward allowed) :
    Progress allowed (reading >>= continuation) := by
  have forward := first.toForward.bind second
  refine fun pass => ⟨forward pass, fun done => ?_⟩
  obtain ⟨value, middle, done, done'⟩ := bind_eq_ok done
  exact Nat.lt_of_le_of_lt ((second value).done done').left_le (first.consumes done)

/-! ### The primitive readings -/

theorem forward_take? {kinds : List Kind} (kindsAllowed : ∀ kind ∈ kinds, allowed kind) :
    Forward allowed (take? kinds) := by
  refine fun pass => ⟨fun {found next} done => ?_, fun failed => absurd failed take?_ne_error⟩
  cases found with
  | none => rw [(take?_eq_none_ok_iff.mp done).1]; exact Pass.Moves.refl pass
  | some token =>
    obtain ⟨reads, asked⟩ := take?_eq_some_ok_iff.mp done
    exact Pass.Moves.of_token reads (kindsAllowed _ asked)

theorem left_lt_of_take? {kinds : List Kind} {token : Token}
    (taken : take? kinds pass = .ok (some token) next) : next.left < pass.left :=
  (take?_eq_some_ok_iff.mp taken).1.left_lt (List.cons_ne_nil token [])

theorem progress_expect {kind : Kind} {message : String} (kindAllowed : allowed kind) :
    Progress allowed (expect kind message) := by
  refine fun pass => ⟨⟨fun done => ?_, fun failed => ?_⟩, fun done => ?_⟩
  · obtain ⟨reads, rfl⟩ := expect_eq_ok_iff.mp done
    exact Pass.Moves.of_token reads kindAllowed
  · obtain ⟨-, rfl, rfl⟩ := expect_eq_error_iff.mp failed
    exact ⟨Pass.Moves.refl _, _, rfl, rfl⟩
  · exact (expect_eq_ok_iff.mp done).1.left_lt (List.cons_ne_nil _ [])

theorem progress_fail {cause : Token → Cause} (fatal : ∀ token, (cause token).fatal = true) :
    Progress allowed (fail cause : Reading α) := by
  refine fun pass => ⟨⟨fun done => ?_, fun failed => ?_⟩, fun done => ?_⟩
  · cases done
  · cases failed
    exact ⟨Pass.Moves.refl _, _, fatal _, rfl⟩
  · cases done

theorem forward_advance : Forward (fun _ => True) advance := by
  refine fun pass => ⟨fun {token next} done => ?_, fun failed => by cases failed⟩
  cases ahead : pass.ahead with
  | nil => rw [advance_of_nil ahead] at done; cases done; exact Pass.Moves.refl pass
  | cons head rest =>
    rw [advance_of_ahead ahead] at done
    cases done
    exact Pass.Moves.of_token (Pass.reads_advance ahead) trivial

/-- Behind an advance there are fewer tokens, where there are any. -/
theorem left_lt_of_advance {middle later : Pass} {token : Token}
    (advanced : advance pass = .ok token middle) (some : later.ahead ≠ [])
    (moves : middle.Moves (fun _ => True) later) : later.left < pass.left := by
  cases ahead : pass.ahead with
  | nil =>
    rw [advance_of_nil ahead] at advanced
    cases advanced
    exact absurd (moves.ahead_eq_nil ahead) some
  | cons head rest =>
    have shorter := (reads_of_advance ahead advanced).2.left_lt (List.cons_ne_nil _ [])
    exact Nat.lt_of_le_of_lt moves.left_le shorter

end Reading

/-! ### Getting over what could not be read -/

namespace Pass

variable {pass : Pass}

/-- What is skipped is read, and nothing is reported. -/
theorem exists_reads_skip (pass : Pass) : ∃ tokens, pass.Reads tokens [] pass.skip := by
  fun_induction skip pass with
  | case1 => exact ⟨[], Reads.refl _⟩
  | case2 => exact ⟨[], Reads.refl _⟩
  | case3 => exact ⟨[], Reads.refl _⟩
  | case4 pass notAtEnd _ _ inductionHypothesis =>
    obtain ⟨tokens, reads⟩ := inductionHypothesis
    have some : pass.ahead ≠ [] := fun ahead => notAtEnd (atEnd_eq_true_iff.mpr ahead)
    obtain ⟨token, rest, ahead⟩ := List.exists_cons_of_ne_nil some
    exact ⟨token :: tokens, (reads_advance ahead).trans reads⟩

theorem synchronize_of_nil (ahead : pass.ahead = []) : pass.synchronize = pass := by
  rw [synchronize, advance_of_nil ahead, skip, if_pos (atEnd_eq_true_iff.mpr ahead)]

/-- Synchronizing reads the current token and those up to where it stops, and reports nothing. -/
theorem reads_synchronize {token : Token} {rest : List Token} (ahead : pass.ahead = token :: rest) :
    ∃ tokens, pass.Reads (token :: tokens) [] pass.synchronize := by
  obtain ⟨tokens, reads⟩ := exists_reads_skip pass.advance
  exact ⟨tokens, (reads_advance ahead).trans reads⟩

/-- Synchronizing reads nothing only at the end. -/
theorem exists_reads_synchronize (pass : Pass) :
    ∃ tokens, pass.Reads tokens [] pass.synchronize ∧ (pass.ahead ≠ [] → tokens ≠ []) := by
  cases ahead : pass.ahead with
  | nil =>
    rw [synchronize_of_nil ahead]
    exact ⟨[], Reads.refl pass, fun some => absurd rfl some⟩
  | cons token rest =>
    obtain ⟨tokens, reads⟩ := reads_synchronize ahead
    exact ⟨token :: tokens, reads, fun _ => List.cons_ne_nil token tokens⟩

theorem moves_synchronize (pass : Pass) : pass.Moves (fun _ => True) pass.synchronize := by
  obtain ⟨tokens, reads, -⟩ := exists_reads_synchronize pass
  exact ⟨tokens, [], reads, fun _ _ => trivial⟩

theorem left_synchronize_lt (some : pass.ahead ≠ []) : pass.synchronize.left < pass.left := by
  obtain ⟨tokens, reads, notEmpty⟩ := exists_reads_synchronize pass
  exact reads.left_lt (notEmpty some)

end Pass

end Parlance
