/-
This file proves that a token is blamed by one fatal report at most, unless it is the end token. A
declaration that fails is reported at the token where it stopped, and this token is passed over, so
that the next failure stops further on. Only the end token cannot be passed over. When a declaration
fails there inside a body, the body has no dot left to read, so the declaration around the body
fails too and at the same place; all declarations with bodies that are still open fail one after
another, from the innermost one to the outermost, and then nothing follows.
-/

import Mathlib.Data.List.Chain
import Parlance.Proofs.Invariant
import Parlance.Proofs.Operations

namespace Parlance

/-! ### Bodies and the declarations in them -/

open Reading

namespace Pass

/-- When declarations are read one after another until a condition is met, one of them begins at
`begun`. -/
inductive Follows (stop : Pass → Bool) : Pass → Pass → Prop
  | here {pass} : stop pass = false → Follows stop pass pass
  | later {pass begun} : stop pass = false → Follows stop pass.declaration.2 begun →
      Follows stop pass begun

/-- When declarations are read one after another until a condition is met, a declaration begins at
`begun`, either one of them or one in a body inside. -/
inductive Begins : (stop : Pass → Bool) → Pass → Pass → Prop
  | here {stop pass} : stop pass = false → Begins stop pass pass
  | inside {stop pass opened begun} : stop pass = false →
      pass.declarationRule.Opens pass opened → Begins endsBody opened begun → Begins stop pass begun
  | later {stop pass begun} : stop pass = false → Begins stop pass.declaration.2 begun →
      Begins stop pass begun

/-- The declaration that begins at `outer` has a body in which the one that begins at `inner` is. -/
def Encloses (outer inner : Pass) : Prop :=
  ∃ opened, outer.declarationRule.Opens outer opened ∧ Follows endsBody opened inner

theorem Begins.goes {stop : Pass → Bool} {pass begun : Pass} (begins : Begins stop pass begun) :
    stop pass = false := by
  cases begins <;> assumption

/-- Every declaration of a run is begun farther on. -/
theorem Begins.moves {stop : Pass → Bool} {pass begun : Pass} (begins : Begins stop pass begun) :
    pass.Moves (fun _ => True) begun := by
  induction begins with
  | here _ => exact .refl _
  | inside _ opens _ inductionHypothesis => exact opens.moves.trans inductionHypothesis
  | later _ _ inductionHypothesis => exact (moves_declaration _).trans inductionHypothesis

end Pass

/-! ### Failures -/

/-- The failure of a declaration. -/
structure Failure where
  /-- The pass with which the declaration began. -/
  begun : Pass
  /-- The pass with which it failed. -/
  stopped : Pass
  fault : Fault
  failed : byRule begun.declarationRule begun = .error fault stopped

namespace Failure

/-- What is reported of a failure. -/
def report (failure : Failure) : Diagnostic :=
  ⟨failure.stopped.current, failure.fault⟩

/-- The index of the token that is blamed for a failure. -/
def index (failure : Failure) : Nat :=
  failure.stopped.cursor

/-- The failure is blamed on the end token. -/
def AtEnd (failure : Failure) : Prop :=
  failure.stopped.ahead = []

/-- A failure of a declaration with a body that is still open around an earlier failure: where that
failure left the pass, the dot that closes the body is missing. -/
structure Closes (later earlier : Failure) : Prop where
  encloses : later.begun.Encloses earlier.begun
  stopped : later.stopped = earlier.begun.declaration.2
  cause : later.fault.cause = .missing later.stopped.current.value "Expect '.' after block."

theorem fatal_report (failure : Failure) : failure.report.fault.cause.fatal = true := by
  obtain ⟨-, cause, fatal, same⟩ := (Rule.progress_byRule _).failed failure.failed
  rw [report, same]
  exact fatal

end Failure

namespace Pass

/-- A pass gets to another one, and these failures are all that is reported with a fatal cause on
the way, each of them when it is found. They stop one behind the other, and of those at the end each
closes the one before it. -/
structure Tells (pass : Pass) (failures : List Failure) (next : Pass) : Prop where
  reads : ∃ tokens reports, pass.Reads tokens reports next ∧
    reports.filter (·.fault.cause.fatal) = failures.map Failure.report
  logged : ∀ failure ∈ failures,
    failure.stopped.log.reported ++ [failure.report] <+: next.log.reported
  found : ∀ {earlier report}, earlier ++ [report] <+: next.log.reported →
    pass.log.reported.length ≤ earlier.length → report.fault.cause.fatal = true →
    ∃ failure ∈ failures, failure.report = report ∧ failure.stopped.log.reported = earlier
  moves : ∀ failure ∈ failures, pass.Moves (fun _ => True) failure.stopped
  passed : ∀ failure ∈ failures, failure.index < next.cursor ∨ failure.AtEnd ∧ next.ahead = []
  apart : failures.Pairwise fun earlier later =>
    earlier.index < later.index ∨ earlier.AtEnd ∧ later.AtEnd
  closes : failures.IsChain fun earlier later => earlier.AtEnd → later.Closes earlier

variable {pass middle next : Pass} {failures failures' : List Failure}

/-- A report that is made on the way stands among the reports that lie between. -/
theorem Reads.exists_reports_eq {tokens : List Token} {reports earlier : List Diagnostic}
    {report : Diagnostic} (reads : pass.Reads tokens reports next)
    (isPrefix : earlier ++ [report] <+: next.log.reported)
    (new : pass.log.reported.length ≤ earlier.length) :
    ∃ more later, earlier = pass.log.reported ++ more ∧ reports = more ++ report :: later := by
  obtain ⟨later, whole⟩ := isPrefix
  rw [reads.log, List.append_assoc] at whole
  obtain ⟨more, rfl⟩ := List.prefix_of_prefix_length_le ⟨reports, rfl⟩ ⟨_, whole⟩ new
  rw [List.append_assoc] at whole
  exact ⟨more, later, rfl, (List.append_cancel_left whole).symm⟩

namespace Tells

theorem moves_next (tells : pass.Tells failures next) : pass.Moves (fun _ => True) next := by
  obtain ⟨tokens, reports, reads, -⟩ := tells.reads
  exact ⟨tokens, reports, reads, fun _ _ => trivial⟩

theorem of_reads {tokens : List Token} {reports : List Diagnostic}
    (reads : pass.Reads tokens reports next)
    (minor : ∀ report ∈ reports, report.fault.cause.fatal = false) : pass.Tells [] next where
  reads := by
    refine ⟨tokens, reports, reads, List.filter_eq_nil_iff.mpr fun report member => ?_⟩
    rw [minor report member]
    exact Bool.false_ne_true
  logged _ member := absurd member List.not_mem_nil
  found isPrefix new fatal := by
    obtain ⟨more, later, -, same⟩ := reads.exists_reports_eq isPrefix new
    rw [minor _ (same ▸ List.mem_append_right more List.mem_cons_self)] at fatal
    cases fatal
  moves _ member := absurd member List.not_mem_nil
  passed _ member := absurd member List.not_mem_nil
  apart := .nil
  closes := .nil

theorem refl (pass : Pass) : pass.Tells [] pass :=
  of_reads (Reads.refl pass) fun _ member => absurd member List.not_mem_nil

/-- A failure at the end is the last one, unless the next one closes it. -/
theorem trans (first : pass.Tells failures middle) (second : middle.Tells failures' next)
    (closes : ∀ earlier ∈ failures.getLast?, ∀ later ∈ failures'.head?,
      earlier.AtEnd → later.Closes earlier) : pass.Tells (failures ++ failures') next where
  reads := by
    obtain ⟨tokens, reports, reads, fatal⟩ := first.reads
    obtain ⟨tokens', reports', reads', fatal'⟩ := second.reads
    refine ⟨_, _, reads.trans reads', ?_⟩
    rw [List.filter_append, List.map_append, fatal, fatal']
  logged := by
    have log := (Onward.of_moves second.moves_next).log
    exact List.forall_mem_append.mpr
      ⟨fun failure member => (first.logged failure member).trans log, second.logged⟩
  found {earlier report} isPrefix new fatal := by
    -- The report was made before the pass in the middle or behind it.
    by_cases behind : middle.log.reported.length ≤ earlier.length
    · obtain ⟨failure, member, told⟩ := second.found isPrefix behind fatal
      exact ⟨failure, List.mem_append_right failures member, told⟩
    · have log := (Onward.of_moves second.moves_next).log
      have before : (earlier ++ [report]).length ≤ middle.log.reported.length := by
        rw [List.length_append]
        exact Nat.lt_of_not_le behind
      obtain ⟨failure, member, told⟩ :=
        first.found (List.prefix_of_prefix_length_le isPrefix log before) new fatal
      exact ⟨failure, List.mem_append_left _ member, told⟩
  moves := List.forall_mem_append.mpr
    ⟨first.moves, fun failure member => first.moves_next.trans (second.moves failure member)⟩
  passed := by
    refine List.forall_mem_append.mpr ⟨fun failure member => ?_, second.passed⟩
    rcases first.passed failure member with before | ⟨atEnd, ended⟩
    · exact .inl (Nat.lt_of_lt_of_le before second.moves_next.cursor_le)
    · exact .inr ⟨atEnd, second.moves_next.ahead_eq_nil ended⟩
  apart := by
    refine List.pairwise_append.mpr ⟨first.apart, second.apart, ?_⟩
    intro earlier isEarlier later isLater
    have moves := second.moves later isLater
    rcases first.passed earlier isEarlier with before | ⟨atEnd, ended⟩
    · exact .inl (Nat.lt_of_lt_of_le before moves.cursor_le)
    · exact .inr ⟨atEnd, moves.ahead_eq_nil ended⟩
  closes := first.closes.append second.closes closes

/-- What follows failures before the end can be anything. -/
theorem trans_of_not_atEnd (first : pass.Tells failures middle)
    (before : ∀ failure ∈ failures, ¬ failure.AtEnd) (second : middle.Tells failures' next) :
    pass.Tells (failures ++ failures') next :=
  first.trans second fun earlier isLast _ _ atEnd =>
    absurd atEnd (before earlier (List.mem_of_getLast? isLast))

/-- Where tokens are left no failure was at the end. -/
theorem not_atEnd (tells : pass.Tells failures next) (some : next.ahead ≠ []) :
    ∀ failure ∈ failures, ¬ failure.AtEnd := by
  intro failure member atEnd
  rcases tells.passed failure member with before | ⟨-, ended⟩
  · -- A pass that got further than the failure had a token left there.
    obtain ⟨tokens, reports, reads, -⟩ := tells.moves failure member
    obtain ⟨tokens', reports', reads', -⟩ := tells.moves_next
    have stopped := reads.cursor_of_nil atEnd
    have length := congrArg List.length reads'.ahead
    rw [List.length_append] at length
    have cursor := reads'.cursor
    rw [Failure.index] at before
    omega
  · exact some ended

end Tells

/-- A declaration that fails is reported and passed over. -/
theorem tells_recover (failure : Failure) :
    failure.stopped.Tells [failure] failure.begun.declaration.2 := by
  have same : failure.begun.declaration.2 =
      (failure.stopped.reportFault failure.stopped.current failure.fault).synchronize :=
    congrArg Prod.snd (recover_of_error failure.failed)
  have reported := reads_reportFault failure.stopped failure.stopped.current failure.fault
  obtain ⟨tokens, passedOver, some⟩ := exists_reads_synchronize
    (failure.stopped.reportFault failure.stopped.current failure.fault)
  have reads : failure.stopped.Reads tokens [failure.report] failure.begun.declaration.2 :=
    same ▸ reported.trans passedOver
  have moves : failure.stopped.Moves (fun _ => True) failure.begun.declaration.2 :=
    ⟨tokens, _, reads, fun _ _ => trivial⟩
  refine ⟨⟨tokens, _, reads, ?_⟩, ?_, fun isPrefix new _ => ?_, ?_, ?_, List.pairwise_singleton _ _,
    .singleton _⟩
  · rw [List.filter_singleton, failure.fatal_report]
    rfl
  · exact List.forall_mem_singleton.mpr ⟨[], by rw [reads.log, List.append_nil]⟩
  · obtain ⟨more, later, rfl, only⟩ := reads.exists_reports_eq isPrefix new
    obtain ⟨rfl, last⟩ | ⟨rest, -, last⟩ := List.cons_eq_append_iff.mp only
    · obtain ⟨rfl, -⟩ := List.cons.inj last
      exact ⟨failure, List.mem_singleton_self _, rfl, (List.append_nil _).symm⟩
    · exact absurd last.symm (List.append_ne_nil_of_right_ne_nil _ (List.cons_ne_nil _ _))
  · exact List.forall_mem_singleton.mpr (Moves.refl _)
  · refine List.forall_mem_singleton.mpr ?_
    by_cases ended : failure.stopped.ahead = []
    · exact .inr ⟨ended, moves.ahead_eq_nil ended⟩
    · have positive := List.length_pos_iff.mpr (some ended)
      have cursor := reads.cursor
      exact .inl (by rw [Failure.index]; omega)

end Pass

/-! ### What a reading tells -/

/-- A failure of a declaration in a body, where these are the bodies that were opened. -/
def Failure.Inside (opens : Pass → Prop) (failure : Failure) : Prop :=
  ∃ opened, opens opened ∧ Pass.Begins Pass.endsBody opened failure.begun

/-- A run from `first` on tells of failures in the bodies that it opens. While it goes on none of
them is at the end. If it fails and the last of them is at the end, then this was a declaration in
such a body, and the run fails because it cannot close the body behind it. -/
def Invariant.telling (first : Pass) (opens : Pass → Prop) : Invariant where
  holds _ pass := ∃ failures, first.Tells failures pass ∧
    (∀ failure ∈ failures, failure.Inside opens) ∧ ∀ failure ∈ failures, ¬ failure.AtEnd
  fails fault pass := ∃ failures, first.Tells failures pass ∧
    (∀ failure ∈ failures, failure.Inside opens) ∧
    ∀ last ∈ failures.getLast?, last.AtEnd →
      (∃ opened, opens opened ∧ Pass.Follows Pass.endsBody opened last.begun) ∧
      pass = last.begun.declaration.2 ∧
      fault.cause = .missing pass.current.value "Expect '.' after block."

namespace Invariant

open Pass

variable {first pass next : Pass} {opens opens' : Pass → Prop} {stage stage' : Stage}

theorem telling_refl (first : Pass) : (telling first opens).holds stage first :=
  ⟨[], .refl first, fun _ member => absurd member List.not_mem_nil,
    fun _ member => absurd member List.not_mem_nil⟩

/-- Nothing fatal is reported while tokens are read and lists and targets are reported. -/
theorem telling_reads (holds : (telling first opens).holds stage pass) {tokens : List Token}
    {reports : List Diagnostic} (reads : pass.Reads tokens reports next)
    (minor : ∀ report ∈ reports, report.fault.cause.fatal = false) :
    (telling first opens).holds stage' next := by
  obtain ⟨failures, tells, inside, before⟩ := holds
  have both := tells.trans_of_not_atEnd before (.of_reads reads minor)
  rw [List.append_nil] at both
  exact ⟨failures, both, inside, before⟩

theorem telling_fails (holds : (telling first opens).holds stage pass) (fault : Fault) :
    (telling first opens).fails fault pass := by
  obtain ⟨failures, tells, inside, before⟩ := holds
  exact ⟨failures, tells, inside,
    fun last isLast atEnd => absurd atEnd (before last (List.mem_of_getLast? isLast))⟩

theorem telling_inAssignments (first : Pass) (opens : Pass → Prop) :
    (telling first opens).InAssignments where
  item := id
  token holds reads :=
    telling_reads holds reads fun _ member => absurd member List.not_mem_nil
  overlong _ holds :=
    telling_reads holds (reads_report _ _ _) (List.forall_mem_singleton.mpr rfl)
  fails holds _ := telling_fails holds _
  value := id
  badTarget holds _ _ :=
    telling_reads holds (reads_report _ _ _) (List.forall_mem_singleton.mpr rfl)

theorem telling_inStatements (first : Pass) (opens : Pass → Prop) :
    (telling first opens).InStatements where
  toInExpressions := (telling_inAssignments first opens).toInExpressions
  value := id
  expression := (telling_inAssignments first opens).toSimulation.inStep_expression
  semicolon holds reads _ :=
    telling_reads holds reads fun _ member => absurd member List.not_mem_nil
  noSemicolon _ holds := telling_fails holds _
  body := id
  goesOn := id

end Invariant

namespace Reading

open Pass

variable {α : Type} {reading : Reading α} {first pass : Pass} {opens opens' : Pass → Prop}
  {stage stage' : Stage}

/-- From a pass a reading tells of failures in the bodies that it opens. -/
structure TellsAt (reading : Reading α) (pass : Pass) (opens : Pass → Prop) : Prop where
  done : ∀ {value next}, reading pass = .ok value next →
    (Invariant.telling pass opens).holds .ended next
  failed : ∀ {fault next}, reading pass = .error fault next →
    (Invariant.telling pass opens).fails fault next

/-- What a reading tells is told by a run that gets to it. -/
theorem TellsAt.outcomes (tellsAt : TellsAt reading pass opens)
    (holds : (Invariant.telling first opens').holds stage pass)
    (more : ∀ opened, opens opened → opens' opened) {values : α → α → Prop}
    (self : ∀ value, values value value) :
    (Invariant.telling first opens').simulation.Outcomes values .ended (reading pass)
      (reading pass) := by
  obtain ⟨failures, tells, inside, before⟩ := holds
  have wider {failure : Failure} (isInside : failure.Inside opens) : failure.Inside opens' := by
    obtain ⟨opened, isOpened, begins⟩ := isInside
    exact ⟨opened, more opened isOpened, begins⟩
  refine Invariant.outcomes_self self (fun done => ?_) fun failed => ?_
  · obtain ⟨failures', tells', inside', before'⟩ := tellsAt.done done
    exact ⟨failures ++ failures', tells.trans_of_not_atEnd before tells',
      List.forall_mem_append.mpr ⟨inside, fun failure member => wider (inside' failure member)⟩,
      List.forall_mem_append.mpr ⟨before, before'⟩⟩
  · obtain ⟨failures', tells', inside', closes⟩ := tellsAt.failed failed
    refine ⟨failures ++ failures', tells.trans_of_not_atEnd before tells',
      List.forall_mem_append.mpr ⟨inside, fun failure member => wider (inside' failure member)⟩,
      fun last isLast atEnd => ?_⟩
    rw [List.getLast?_append, Option.mem_def, Option.or_eq_some_iff] at isLast
    rcases isLast with isLast | ⟨-, isLast⟩
    · obtain ⟨⟨opened, isOpened, follows⟩, rest⟩ := closes last isLast atEnd
      exact ⟨⟨opened, more opened isOpened, follows⟩, rest⟩
    · exact absurd atEnd (before last (List.mem_of_getLast? isLast))

/-! ### Declarations -/

/-- A declaration tells of the failures inside it, and last of its own. -/
theorem exists_tells_declaration {stop : Pass → Bool} (goes : stop pass = false)
    (tellsAt : TellsAt (byRule pass.declarationRule) pass (pass.declarationRule.Opens pass)) :
    ∃ failures, pass.Tells failures pass.declaration.2 ∧
      (∀ failure ∈ failures, Begins stop pass failure.begun) ∧
      ∀ last ∈ failures.getLast?, last.AtEnd → last.begun = pass := by
  cases outcome : byRule pass.declarationRule pass with
  | ok stmt next =>
    have same : pass.declaration = (stmt, next) := recover_of_ok outcome
    obtain ⟨failures, tells, inside, before⟩ := tellsAt.done outcome
    refine ⟨failures, same ▸ tells, fun failure member => ?_, fun last isLast atEnd => ?_⟩
    · obtain ⟨opened, opens, begins⟩ := inside failure member
      exact .inside goes opens begins
    · exact absurd atEnd (before last (List.mem_of_getLast? isLast))
  | error fault stopped =>
    let own : Failure := ⟨pass, stopped, fault, outcome⟩
    obtain ⟨failures, tells, inside, closes⟩ := tellsAt.failed outcome
    refine ⟨failures ++ [own], tells.trans (tells_recover own) ?_, ?_, ?_⟩
    · intro earlier isEarlier later isLater atEnd
      cases isLater
      obtain ⟨encloses, isStopped, cause⟩ := closes earlier isEarlier atEnd
      exact ⟨encloses, isStopped, cause⟩
    · refine List.forall_mem_append.mpr ⟨fun failure member => ?_,
        List.forall_mem_singleton.mpr (.here goes)⟩
      obtain ⟨opened, opens, begins⟩ := inside failure member
      exact .inside goes opens begins
    · intro last isLast _
      rw [List.getLast?_concat] at isLast
      cases isLast
      rfl

theorem runs_eq_of_stop {stop : Pass → Bool} {stmts : List Stmt} {next : Pass}
    (runs : Runs stop pass stmts next) (stops : stop pass = true) : next = pass := by
  cases runs with
  | stopped _ => rfl
  | declaration goes _ =>
    rw [goes] at stops
    cases stops

/-- Declarations one after another tell of their failures. If the last one is at the end, it is that
of the last declaration. -/
theorem exists_tells_of_runs {stop : Pass → Bool} {stmts : List Stmt} {next : Pass}
    (runs : Runs stop pass stmts next) (halts : Halts stop)
    (tellsAt : ∀ later, pass.Moves (fun _ => True) later → later.ahead ≠ [] →
      ∀ rule : Rule, TellsAt (byRule rule) later (rule.Opens later)) :
    ∃ failures, pass.Tells failures next ∧
      (∀ failure ∈ failures, Begins stop pass failure.begun) ∧
      ∀ last ∈ failures.getLast?, last.AtEnd →
        Follows stop pass last.begun ∧ next = last.begun.declaration.2 := by
  induction runs with
  | @stopped pass _ =>
    exact ⟨[], .refl pass, fun _ member => absurd member List.not_mem_nil,
      fun _ isLast => by cases isLast⟩
  | @declaration pass rest next goes runs inductionHypothesis =>
    have some := halts.ahead_ne_nil goes
    obtain ⟨failures, tells, inside, own⟩ :=
      exists_tells_declaration goes (tellsAt pass (.refl pass) some _)
    obtain ⟨failures', tells', inside', follows⟩ := inductionHypothesis fun later moved =>
      tellsAt later ((moves_declaration pass).trans moved)
    -- Behind a failure at the end there is no declaration.
    have ended : ∀ failure ∈ failures, failure.AtEnd →
        failures' = [] ∧ next = pass.declaration.2 := by
      intro failure member atEnd
      have ahead : pass.declaration.2.ahead = [] := Decidable.byContradiction fun some =>
        tells.not_atEnd some failure member atEnd
      have stops := halts.ended _ ahead
      refine ⟨List.eq_nil_iff_forall_not_mem.mpr fun later isLater => ?_,
        runs_eq_of_stop runs stops⟩
      rw [(inside' later isLater).goes] at stops
      cases stops
    refine ⟨failures ++ failures', tells.trans tells' ?_, ?_, ?_⟩
    · intro earlier isEarlier later isLater atEnd
      rw [(ended earlier (List.mem_of_getLast? isEarlier) atEnd).1] at isLater
      cases isLater
    · exact List.forall_mem_append.mpr
        ⟨inside, fun failure member => .later goes (inside' failure member)⟩
    · intro last isLast atEnd
      rw [List.getLast?_append, Option.mem_def, Option.or_eq_some_iff] at isLast
      rcases isLast with isLast | ⟨-, isLast⟩
      · obtain ⟨isFollowing, same⟩ := follows last isLast atEnd
        exact ⟨.later goes isFollowing, same⟩
      · obtain rfl := own last isLast atEnd
        exact ⟨.here goes, (ended last (List.mem_of_getLast? isLast) atEnd).2⟩

/-! ### Rules -/

/-- A body tells of the failures in it. It cannot be closed behind one at the end. -/
theorem tellsAt_block (tellsAt : ∀ later, pass.Moves (fun _ => True) later → later.ahead ≠ [] →
      ∀ rule : Rule, TellsAt (byRule rule) later (rule.Opens later)) :
    TellsAt block pass (· = pass) := by
  obtain ⟨body, last, runs, same⟩ := exists_runs_block pass
  obtain ⟨failures, tells, inside, follows⟩ := exists_tells_of_runs runs halts_endsBody tellsAt
  have begins : ∀ failure ∈ failures, failure.Inside (· = pass) :=
    fun failure member => ⟨pass, rfl, inside failure member⟩
  refine ⟨fun done => ?_, fun failed => ?_⟩
  · rw [same] at done
    obtain ⟨dot, next, expected, made⟩ := bind_eq_ok done
    obtain ⟨-, rfl⟩ := pure_eq_ok made
    have reads := (expect_eq_ok_iff.mp expected).1
    have before := tells.not_atEnd (by rw [reads.ahead]; exact List.cons_ne_nil _ _)
    have here : (Invariant.telling pass (· = pass)).holds .inside last :=
      ⟨failures, tells, begins, before⟩
    exact Invariant.telling_reads here reads fun _ member => absurd member List.not_mem_nil
  · rw [same] at failed
    rcases bind_eq_error failed with failed | ⟨dot, next, -, failed⟩
    · obtain ⟨-, rfl, rfl⟩ := expect_eq_error_iff.mp failed
      refine ⟨failures, tells, begins, fun failure isLast atEnd => ?_⟩
      obtain ⟨isFollowing, isNext⟩ := follows failure isLast atEnd
      exact ⟨⟨pass, rfl, isFollowing⟩, isNext, rfl⟩
    · cases failed

/-- A rule tells of the failures in the bodies it opens. -/
theorem tellsAt_byRule (rule : Rule) (pass : Pass) :
    TellsAt (byRule rule) pass (rule.Opens pass) := by
  induction length : pass.left using Nat.strongRecOn generalizing pass rule with
  | ind length inductionHypothesis =>
    subst length
    have kept := Invariant.telling_inStatements pass (rule.Opens pass)
    have atRule : (Invariant.telling pass (rule.Opens pass)).simulation.AtRule rule pass pass := by
      refine ⟨⟨rfl, Invariant.telling_refl pass⟩, fun _ => ?_, ?_, ?_⟩
      · have advanced := kept.inStep_advance ⟨rfl, Invariant.telling_refl pass⟩
        split
        · exact advanced.mono id
        · exact advanced
      · rintro middle _ shorter more ⟨rfl, holds⟩
        have tellsAt := inductionHypothesis _ shorter middle.statementRule middle rfl
        exact TellsAt.outcomes ⟨tellsAt.done, tellsAt.failed⟩ holds more
          (Stmt.Alike.refl fun _ => rfl)
      · rintro middle _ opens shorter ⟨rfl, holds⟩
        have body := tellsAt_block fun later moved some rule =>
          inductionHypothesis _ (shorter later moved some) rule later rfl
        exact body.outcomes holds (fun opened same => same ▸ opens)
          (Stmt.Alike.allRefl fun _ => rfl)
    have outcomes := kept.toSimulation.outcomes_read atRule
    exact ⟨Invariant.holds_of_outcomes outcomes, Invariant.fails_of_outcomes outcomes⟩

end Reading

/-- The fatal reports of a program are those of failures of declarations that were begun. They blame
tokens at indices that increase, up to the first end token. Only this one can be blamed again: then
all that follows is blamed on it too, and each failure that follows is that of a declaration whose
body is still open around the failure before it and lacks its dot. -/
theorem Program.failures_unwind (tokens : List Token) (file : String) :
    let all := Token.closed tokens file
    let eofIndex := all.findIdx (·.kind = .eof)
    let log := (ofTokens tokens file).log.reported
    ∃ failures : List Failure,
      log.filter (·.fault.cause.fatal) = failures.map Failure.report ∧
      (∀ failure ∈ failures,
        Pass.Begins Pass.atEnd (Pass.start tokens file) failure.begun ∧
        failure.stopped.log.reported ++ [failure.report] <+: log ∧
        all[failure.index]? = some failure.report.token ∧ failure.index ≤ eofIndex) ∧
      (failures.Pairwise fun earlier later =>
        earlier.index < later.index ∨ earlier.index = eofIndex ∧ later.index = eofIndex) ∧
      failures.IsChain fun earlier later => earlier.index = eofIndex → later.Closes earlier := by
  intro all eofIndex log
  obtain ⟨failures, tells, begins, -⟩ := Reading.exists_tells_of_runs
    (Pass.runs_readUntil Pass.halts_atEnd (Pass.start tokens file)) Pass.halts_atEnd
    fun pass _ _ rule => Reading.tellsAt_byRule rule pass
  have isOver : ∀ failure ∈ failures, failure.stopped.Over all := fun failure member =>
    (Pass.Over.start tokens file).onward (.of_moves (tells.moves failure member))
  have atEnd : ∀ failure ∈ failures, failure.AtEnd ↔ failure.index = eofIndex :=
    fun failure member => (isOver failure member).atEnd_iff
  refine ⟨failures, ?_, fun failure member => ⟨begins failure member,
    tells.logged failure member, (isOver failure member).getElem?_cursor,
    (isOver failure member).cursor_le⟩, ?_, ?_⟩
  · obtain ⟨read, reports, reads, fatal⟩ := tells.reads
    have same : log = reports := reads.log
    rw [same, fatal]
  · refine tells.apart.imp_of_mem fun {earlier later} isEarlier isLater apart => ?_
    rwa [← atEnd earlier isEarlier, ← atEnd later isLater]
  · exact tells.closes.imp_of_mem_imp fun earlier later isEarlier _ closes isEnd =>
      closes ((atEnd earlier isEarlier).mpr isEnd)

/-- A block inside a block inside a function, and a value that is missing: all three bodies are open
when it fails. -/
example : (Program.ofTokens [.ofWord .to_, .ofName "f", .ofMark .emDash, .ofMark .emDash,
      .ofMark .colon, .ofMark .colon, .ofMark .colon, .ofWord .say] "f").log.reported.map
        (·.fault.cause.message) =
    ["Expect expression.", "Expect '.' after block.", "Expect '.' after block.",
      "Expect '.' after block."] := by
  decide +kernel

end Parlance
