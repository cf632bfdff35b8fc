/-
This file finds the argument lists of an expression and what is told of them. Where these lists
begin is said by following an expression from operand to operand: an operand can have any number of
lists behind it, each between two em-dashes, and an operator leads on to the next operand. How
tightly the operators bind does not matter for that. Every reading of a part of an expression,
whether it gives a value or fails, is then shown to read the lists that come from where it begins
and do not come behind it, each of them behind the ones before, and to report of lists exactly what
is reported of these.
-/

import Parlance.Proofs.Arity
import Parlance.Proofs.Slices

namespace Parlance

open Grammar Reading

/-! ### Where lists begin -/

/-- The words in front of an operand that is not the first one of its expression. -/
def Kind.operators : List Kind :=
  [.word .be, .word .or, .word .and] ++ Kind.equalities

mutual

/-- An expression is read on from the beginning of an operand, and an argument list that then comes
begins at `opened`. -/
inductive FromOperand : (pass opened : Pass) → Prop
  | not {pass token next opened} : take? [.word .not] pass = .ok (some token) next →
      FromOperand next opened → FromOperand pass opened
  | primary {pass expr next opened} : primary pass = .ok expr next →
      BehindOperand next opened → FromOperand pass opened

/-- An expression is read on from the end of an operand, and an argument list that then comes begins
at `opened`. -/
inductive BehindOperand : (pass opened : Pass) → Prop
  | here {pass dash opened} : take? [.mark .emDash] pass = .ok (some dash) opened →
      BehindOperand pass opened
  | call {pass dash list arguments closing paren next opened} :
      take? [.mark .emDash] pass = .ok (some dash) list →
      Reading.arguments list = .ok arguments closing →
      expect (.mark .emDash) "Expect '—' after arguments." closing = .ok paren next →
      BehindOperand next opened → BehindOperand pass opened
  | operator {pass token next opened} : take? Kind.operators pass = .ok (some token) next →
      FromOperand next opened → BehindOperand pass opened

end

/-- An expression that begins here has the argument list. -/
def HasArguments (pass : Pass) (list : Listing) : Prop :=
  list.form = .arguments ∧ FromOperand pass list.begun

/-! ### Lists between two passes -/

/-- Whether a report is that of a list that is too long. -/
def Diagnostic.isOverlong (report : Diagnostic) : Bool :=
  report.fault.cause.name = "ArityExceeded"

theorem Listing.isOverlong_of_mem {list : Listing} :
    ∀ report ∈ list.reports, report.isOverlong = true := by
  intro report member
  rcases list.reports_cases with none | ⟨token, same⟩
  · rw [none] at member
    exact absurd member List.not_mem_nil
  · rw [same, List.mem_singleton] at member
    rw [member]
    rfl

namespace Pass

/-- A pass gets to another one, these are the lists that begin on the way, in their order, and of
all that is reported on the way the reports of lists that are too long are theirs. -/
structure Tallies (pass : Pass) (lists : List Listing) (next : Pass) : Prop where
  reads : ∃ tokens reports, pass.Reads tokens reports next ∧
    reports.filter Diagnostic.isOverlong = lists.flatMap Listing.reports
  between : ∀ list ∈ lists, pass.cursor < list.begun.cursor ∧ list.begun.cursor ≤ next.cursor
  ordered : lists.Pairwise fun earlier later => earlier.begun.cursor < later.begun.cursor

variable {pass middle next : Pass} {lists lists' : List Listing}

namespace Tallies

theorem of_reads {tokens : List Token} {reports : List Diagnostic}
    (reads : pass.Reads tokens reports next)
    (others : ∀ report ∈ reports, report.isOverlong = false) : pass.Tallies [] next where
  reads := by
    refine ⟨tokens, reports, reads, List.filter_eq_nil_iff.mpr fun report member => ?_⟩
    rw [others report member]
    exact Bool.false_ne_true
  between _ member := absurd member List.not_mem_nil
  ordered := .nil

theorem of_tokens {tokens : List Token} (reads : pass.Reads tokens [] next) :
    pass.Tallies [] next :=
  of_reads reads fun _ member => absurd member List.not_mem_nil

theorem refl (pass : Pass) : pass.Tallies [] pass :=
  of_tokens (Reads.refl pass)

theorem cursor_le (tallies : pass.Tallies lists next) : pass.cursor ≤ next.cursor := by
  obtain ⟨tokens, reports, reads, -⟩ := tallies.reads
  rw [reads.cursor]
  exact Nat.le_add_right _ _

theorem trans (first : pass.Tallies lists middle) (second : middle.Tallies lists' next) :
    pass.Tallies (lists ++ lists') next where
  reads := by
    obtain ⟨tokens, reports, reads, same⟩ := first.reads
    obtain ⟨tokens', reports', reads', same'⟩ := second.reads
    refine ⟨_, _, reads.trans reads', ?_⟩
    rw [List.filter_append, List.flatMap_append, same, same']
  between := by
    refine List.forall_mem_append.mpr ⟨fun list member => ?_, fun list member => ?_⟩
    · obtain ⟨before, behind⟩ := first.between list member
      exact ⟨before, Nat.le_trans behind second.cursor_le⟩
    · obtain ⟨before, behind⟩ := second.between list member
      exact ⟨Nat.lt_of_le_of_lt first.cursor_le before, behind⟩
  ordered := by
    refine List.pairwise_append.mpr ⟨first.ordered, second.ordered, ?_⟩
    intro earlier isEarlier later isLater
    exact Nat.lt_of_le_of_lt (first.between earlier isEarlier).2 (second.between later isLater).1

/-- A list begins behind its em-dash, and what is reported while it is read is its own. -/
theorem list (tallies : pass.Tallies [] middle) (before : pass.cursor < middle.cursor)
    (form : ListForm) : pass.Tallies [⟨form, middle⟩] (form.reached middle) where
  reads := by
    obtain ⟨tokens, reports, reads, none⟩ := tallies.reads
    obtain ⟨tokens', items, reads', -⟩ := Listing.reports_described ⟨form, middle⟩
    refine ⟨_, _, reads.trans reads', ?_⟩
    rw [List.filter_append, none, List.filter_eq_self.mpr Listing.isOverlong_of_mem,
      List.flatMap_singleton]
    rfl
  between := by
    obtain ⟨tokens, items, reads, -⟩ := Listing.reports_described ⟨form, middle⟩
    refine List.forall_mem_singleton.mpr ⟨before, ?_⟩
    have cursor : (form.reached middle).cursor = middle.cursor + tokens.length := reads.cursor
    rw [cursor]
    exact Nat.le_add_right _ _
  ordered := List.pairwise_singleton _ _

end Tallies

end Pass

/-! ### The lists of a reading -/

namespace Reading

variable {α β : Type} {reading : Reading α} {continuation : α → Reading β} {pass : Pass}
  {has has' : Listing → Prop}

/-- From a pass a reading reads exactly the lists that are said, whether it gives a value or
fails. -/
def Tallied (reading : Reading α) (pass : Pass) (has : Listing → Prop) : Prop :=
  ∃ lists, pass.Tallies lists (reading.reached pass) ∧ ∀ list, has list ↔ list ∈ lists

/-- A reading that reads no list. -/
def Silent (reading : Reading α) : Prop :=
  ∀ pass : Pass, pass.Tallies [] (reading.reached pass)

theorem Tallied.congr (tallied : Tallied reading pass has)
    (same : ∀ list, has' list ↔ has list) : Tallied reading pass has' := by
  obtain ⟨lists, tallies, isRead⟩ := tallied
  exact ⟨lists, tallies, fun list => (same list).trans (isRead list)⟩

theorem Tallied.bind {has' : α → Pass → Listing → Prop} (first : Tallied reading pass has)
    (second : ∀ value middle, reading pass = .ok value middle →
      Tallied (continuation value) middle (has' value middle)) :
    Tallied (reading >>= continuation) pass fun list =>
      has list ∨ ∃ value middle, reading pass = .ok value middle ∧ has' value middle list := by
  obtain ⟨lists, tallies, isRead⟩ := first
  cases outcome : reading pass with
  | ok value middle =>
    obtain ⟨lists', tallies', isRead'⟩ := second value middle outcome
    rw [reached_of_ok outcome] at tallies
    refine ⟨lists ++ lists', reached_bind_of_ok outcome ▸ tallies.trans tallies', fun list => ?_⟩
    rw [List.mem_append, ← isRead, ← isRead']
    refine or_congr_right ⟨?_, fun holds => ⟨value, middle, rfl, holds⟩⟩
    rintro ⟨_, _, ⟨⟩, holds⟩
    exact holds
  | error fault next =>
    rw [reached_of_error outcome] at tallies
    refine ⟨lists, reached_bind_of_error outcome ▸ tallies, fun list => ?_⟩
    rw [← isRead]
    refine or_iff_left ?_
    rintro ⟨_, _, ⟨⟩, -⟩

theorem Silent.tallied (silent : Silent reading) (pass : Pass) :
    Tallied reading pass fun _ => False :=
  ⟨[], silent pass, fun _ => iff_of_false id List.not_mem_nil⟩

/-- A reading has only the lists of what follows, if it has none before. -/
theorem Silent.bind_tallied {has' : α → Pass → Listing → Prop} (silent : Silent reading)
    (second : ∀ value middle, reading pass = .ok value middle →
      Tallied (continuation value) middle (has' value middle)) :
    Tallied (reading >>= continuation) pass fun list =>
      ∃ value middle, reading pass = .ok value middle ∧ has' value middle list :=
  ((silent.tallied pass).bind second).congr fun _ => (or_iff_right id).symm

/-- Something without lists that follows changes nothing. -/
theorem tallies_bind_silent {middle : Pass} {lists : List Listing}
    (first : pass.Tallies lists (reading.reached middle))
    (second : ∀ value, Silent (continuation value)) :
    pass.Tallies lists ((reading >>= continuation).reached middle) := by
  cases outcome : reading middle with
  | ok value next =>
    rw [reached_of_ok outcome] at first
    rw [reached_bind_of_ok outcome]
    exact List.append_nil lists ▸ first.trans (second value next)
  | error fault next =>
    rw [reached_of_error outcome] at first
    rwa [reached_bind_of_error outcome]

theorem Tallied.bind_silent (first : Tallied reading pass has)
    (second : ∀ value, Silent (continuation value)) :
    Tallied (reading >>= continuation) pass has := by
  obtain ⟨lists, tallies, isRead⟩ := first
  exact ⟨lists, tallies_bind_silent tallies second, isRead⟩

theorem Silent.bind (first : Silent reading) (second : ∀ value, Silent (continuation value)) :
    Silent (reading >>= continuation) :=
  fun pass => tallies_bind_silent (first pass) second

theorem silent_pure (value : α) : Silent (pure value : Reading α) :=
  fun pass => Pass.Tallies.refl pass

theorem silent_take? (kinds : List Kind) : Silent (take? kinds) := by
  intro pass
  cases taken : take? kinds pass with
  | error => exact absurd taken take?_ne_error
  | ok found next =>
    rw [reached_of_ok taken]
    cases found with
    | none => rw [(take?_eq_none_ok_iff.mp taken).1]; exact .refl pass
    | some token => exact .of_tokens (take?_eq_some_ok_iff.mp taken).1

theorem silent_expect (kind : Kind) (message : String) : Silent (expect kind message) := by
  intro pass
  cases outcome : expect kind message pass with
  | ok token next =>
    rw [reached_of_ok outcome]
    exact .of_tokens (expect_eq_ok_iff.mp outcome).1
  | error fault next =>
    rw [reached_of_error outcome, (expect_eq_error_iff.mp outcome).2.1]
    exact .refl pass

theorem silent_advance : Silent advance := by
  intro pass
  cases ahead : pass.ahead with
  | nil =>
    rw [reached_of_ok (advance_of_nil ahead)]
    exact .refl pass
  | cons token rest =>
    rw [reached_of_ok (advance_of_ahead ahead)]
    exact .of_tokens (Pass.reads_advance ahead)

theorem silent_primary : Silent primary := by
  intro pass
  cases outcome : primary pass with
  | ok expr next =>
    obtain ⟨token, reads, -⟩ := primary_eq_ok_iff.mp outcome
    rw [reached_of_ok outcome]
    exact .of_tokens reads
  | error fault next =>
    rw [reached_of_error outcome, (primary_eq_error_iff.mp outcome).1]
    exact .refl pass

/-- A target that is no variable is reported, but not as a list. -/
theorem silent_assigned (target : Expr) (be : Token) (value : Expr) :
    Silent (assigned target be value) := by
  intro pass
  unfold assigned reached
  cases target with
  | name token => exact .refl pass
  | _ =>
    exact .of_reads (Pass.reads_report pass be .badTarget)
      (List.forall_mem_singleton.mpr rfl)

end Reading

/-! ### Which way an expression goes on -/

section Ways

variable {pass next opened : Pass} {token : Token} {kinds : List Kind}

theorem Reading.take?_unique {kinds' : List Kind} {token' : Token} {next' : Pass}
    (taken : take? kinds pass = .ok (some token) next)
    (taken' : take? kinds' pass = .ok (some token') next') : token' = token ∧ next' = next := by
  obtain ⟨reads, -⟩ := take?_eq_some_ok_iff.mp taken
  obtain ⟨reads', -⟩ := take?_eq_some_ok_iff.mp taken'
  obtain rfl := (List.cons.inj (reads'.ahead.symm.trans reads.ahead)).1
  exact ⟨rfl, reads'.unique reads⟩

theorem fromOperand_iff_of_not (taken : take? [.word .not] pass = .ok (some token) next) :
    FromOperand pass opened ↔ FromOperand next opened := by
  refine ⟨fun comes => ?_, .not taken⟩
  cases comes with
  | not taken' comes =>
    obtain ⟨-, rfl⟩ := take?_unique taken taken'
    exact comes
  | primary isExpr _ =>
    -- What is read as an operand is no `not`.
    obtain ⟨reads, isNot⟩ := take?_eq_some_ok_iff.mp taken
    obtain ⟨token', reads', denotes⟩ := single_primary.mp isExpr
    have leaf := denotes.kind_mem
    have same : token' = token := (List.cons.inj (reads'.ahead.symm.trans reads.ahead)).1
    rw [same, List.mem_singleton.mp isNot] at leaf
    exact absurd leaf (by decide)

theorem fromOperand_iff_of_clear (clear : pass.Clear [.word .not]) :
    FromOperand pass opened ↔ ∃ expr next, primary pass = .ok expr next ∧
      BehindOperand next opened := by
  refine ⟨fun comes => ?_, fun ⟨_, _, isExpr, comes⟩ => .primary isExpr comes⟩
  cases comes with
  | not taken _ => cases (take?_eq_none_ok_iff.mpr ⟨rfl, clear⟩).symm.trans taken
  | primary isExpr comes => exact ⟨_, _, isExpr, comes⟩

theorem not_behindOperand (clear : pass.Clear (.mark .emDash :: Kind.operators)) :
    ¬ BehindOperand pass opened := by
  have noDash := take?_eq_none_ok_iff.mpr ⟨rfl, clear.mono (List.cons_subset_cons _
    (List.nil_subset _))⟩
  have noOperator := take?_eq_none_ok_iff.mpr ⟨rfl, clear.mono (List.subset_cons_self _ _)⟩
  intro comes
  cases comes with
  | here taken => cases noDash.symm.trans taken
  | call taken => cases noDash.symm.trans taken
  | operator taken => cases noOperator.symm.trans taken

theorem behindOperand_iff_of_operator (isOperator : ∀ kind ∈ kinds, kind ∈ Kind.operators)
    (taken : take? kinds pass = .ok (some token) next) :
    BehindOperand pass opened ↔ FromOperand next opened := by
  obtain ⟨reads, isKind⟩ := take?_eq_some_ok_iff.mp taken
  have taken' : take? Kind.operators pass = .ok (some token) next :=
    take?_eq_some_ok_iff.mpr ⟨reads, isOperator _ isKind⟩
  have noDash {dash list} (isDash : take? [.mark .emDash] pass = .ok (some dash) list) : False := by
    have kind := List.mem_singleton.mp (take?_eq_some_ok_iff.mp isDash).2
    rw [(take?_unique taken isDash).1] at kind
    exact absurd (kind ▸ isOperator _ isKind) (by decide)
  refine ⟨fun comes => ?_, .operator taken'⟩
  cases comes with
  | here isDash => exact (noDash isDash).elim
  | call isDash => exact (noDash isDash).elim
  | operator isTaken comes =>
    obtain ⟨-, rfl⟩ := take?_unique taken isTaken
    exact comes

theorem behindOperand_iff_of_dash (taken : take? [.mark .emDash] pass = .ok (some token) next) :
    BehindOperand pass opened ↔ opened = next ∨ ∃ arguments closing paren last,
      Reading.arguments next = .ok arguments closing ∧
      expect (.mark .emDash) "Expect '—' after arguments." closing = .ok paren last ∧
      BehindOperand last opened := by
  constructor
  · intro comes
    cases comes with
    | here taken' => exact .inl (take?_unique taken taken').2
    | call taken' isList closes comes =>
      obtain ⟨-, rfl⟩ := take?_unique taken taken'
      exact .inr ⟨_, _, _, _, isList, closes, comes⟩
    | operator taken' _ =>
      have kind := List.mem_singleton.mp (take?_eq_some_ok_iff.mp taken).2
      have isOperator := (take?_eq_some_ok_iff.mp taken').2
      rw [(take?_unique taken taken').1, kind] at isOperator
      exact absurd isOperator (by decide)
  · rintro (rfl | ⟨_, _, _, _, isList, closes, comes⟩)
    · exact .here taken
    · exact .call taken isList closes comes

end Ways

/-! ### The lists of an expression -/

theorem Pass.Clear.append {kinds kinds' : List Kind} {pass : Pass} (clear : pass.Clear kinds)
    (clear' : pass.Clear kinds') : pass.Clear (kinds ++ kinds') :=
  fun token member isKind =>
    (List.mem_append.mp isKind).elim (clear token member) (clear' token member)

namespace Reading

variable {α β : Type} {reading : Reading α} {continuation : α → Reading β} {pass : Pass}
  {follow follow' : List Kind} {comes comes' : Pass → Prop}

/-- Of the argument lists that come from here on, a part of an expression reads those that do not
come behind it. Behind it, none of some kinds of token follows. -/
structure Covers (reading : Reading α) (follow : List Kind) (pass : Pass) (comes : Pass → Prop) :
    Prop where
  tally : ∃ lists : List Pass,
    pass.Tallies (lists.map (Listing.mk .arguments)) (reading.reached pass) ∧
    ∀ opened, comes opened ↔ opened ∈ lists ∨
      ∃ value next, reading pass = .ok value next ∧ BehindOperand next opened
  clear : ∀ {value next}, reading pass = .ok value next → next.Clear follow

/-- Behind a failure nothing comes. -/
theorem covers_of_error {fault : Fault} {next : Pass} {lists : List Pass}
    (failed : reading pass = .error fault next)
    (tallies : pass.Tallies (lists.map (Listing.mk .arguments)) next)
    (isRead : ∀ opened, comes opened ↔ opened ∈ lists) : Covers reading follow pass comes where
  tally := by
    refine ⟨lists, reached_of_error failed ▸ tallies, fun opened => ?_⟩
    rw [isRead, failed]
    refine (or_iff_left ?_).symm
    rintro ⟨_, _, ⟨⟩, -⟩
  clear done := by
    rw [failed] at done
    cases done

theorem Covers.bind (first : Covers reading follow pass comes)
    (second : ∀ value middle, reading pass = .ok value middle → middle.Clear follow →
      Covers (continuation value) follow' middle (BehindOperand middle)) :
    Covers (reading >>= continuation) follow' pass comes := by
  obtain ⟨⟨lists, tallies, isRead⟩, clear⟩ := first
  cases outcome : reading pass with
  | ok value middle =>
    obtain ⟨⟨lists', tallies', isRead'⟩, clear'⟩ := second value middle outcome (clear outcome)
    rw [reached_of_ok outcome] at tallies
    refine ⟨⟨lists ++ lists', ?_, fun opened => ?_⟩, fun done => ?_⟩
    · rw [reached_bind_of_ok outcome, List.map_append]
      exact tallies.trans tallies'
    · rw [isRead, outcome, bind_of_ok outcome, List.mem_append, or_assoc, ← isRead']
      refine or_congr_right ⟨?_, fun comes => ⟨value, middle, rfl, comes⟩⟩
      rintro ⟨_, _, ⟨⟩, comes⟩
      exact comes
    · rw [bind_of_ok outcome] at done
      exact clear' done
  | error fault next =>
    rw [reached_of_error outcome] at tallies
    refine covers_of_error (bind_of_error outcome) tallies fun opened => ?_
    rw [isRead, outcome]
    refine or_iff_left ?_
    rintro ⟨_, _, ⟨⟩, -⟩

/-- Lists in front of a part are read before those of the part. -/
theorem Covers.prepend {reading' : Reading α} {middle : Pass} {lists : List Pass}
    (rest : Covers reading' follow middle comes') (same : reading pass = reading' middle)
    (tallies : pass.Tallies (lists.map (Listing.mk .arguments)) middle)
    (isRead : ∀ opened, comes opened ↔ opened ∈ lists ∨ comes' opened) :
    Covers reading follow pass comes := by
  obtain ⟨⟨lists', tallies', isRead'⟩, clear⟩ := rest
  refine ⟨⟨lists ++ lists', ?_, fun opened => ?_⟩, fun done => clear (same ▸ done)⟩
  · rw [reached, same, List.map_append]
    exact tallies.trans tallies'
  · rw [isRead, isRead', same, List.mem_append, or_assoc]

/-- A first step without a list changes only what comes. -/
theorem Covers.after {value : α} {middle : Pass} (silent : Silent reading)
    (done : reading pass = .ok value middle) (same : ∀ opened, comes opened ↔ comes' opened)
    (rest : Covers (continuation value) follow middle comes') :
    Covers (reading >>= continuation) follow pass comes := by
  have tallies : pass.Tallies ([].map (Listing.mk .arguments)) middle :=
    reached_of_ok done ▸ silent pass
  exact rest.prepend (bind_of_ok done) tallies fun opened =>
    (same opened).trans (or_iff_right List.not_mem_nil).symm

theorem covers_pure (value : α) (clear : pass.Clear follow) :
    Covers (pure value : Reading α) follow pass (BehindOperand pass) where
  tally := by
    refine ⟨[], Pass.Tallies.refl pass, fun opened => ?_⟩
    refine ⟨fun comes => .inr ⟨value, pass, rfl, comes⟩, ?_⟩
    rintro (member | ⟨_, _, ⟨⟩, comes⟩)
    · exact absurd member List.not_mem_nil
    · exact comes
  clear done := (pure_eq_ok done).2 ▸ clear

/-- Behind the em-dash of a call its list is read. Where the list is read and closed, what comes
behind it comes next; otherwise the list is the last one. -/
theorem covers_opened {call : Reading α} {rest : List Expr → Token → Reading α} {dash : Token}
    {list : Pass} (taken : take? [.mark .emDash] pass = .ok (some dash) list)
    (same : call pass = (Reading.arguments >>= fun arguments =>
      expect (.mark .emDash) "Expect '—' after arguments." >>= rest arguments) list)
    (each : ∀ arguments paren last, last.left < pass.left →
      Covers (rest arguments paren) follow last (BehindOperand last)) :
    Covers call follow pass (BehindOperand pass) := by
  have comes (opened : Pass) : BehindOperand pass opened ↔ _ := behindOperand_iff_of_dash taken
  have dashReads := (take?_eq_some_ok_iff.mp taken).1
  have begins : pass.Tallies ([list].map (Listing.mk .arguments))
      (Reading.arguments.reached list) :=
    .list (.of_tokens dashReads) (by rw [dashReads.cursor]; exact Nat.lt_succ_self _) _
  cases isList : Reading.arguments list with
  | error fault stopped =>
    refine covers_of_error (same.trans (bind_of_error isList))
      (reached_of_error isList ▸ begins) fun opened => ?_
    rw [comes, isList, List.mem_singleton]
    refine or_iff_left ?_
    rintro ⟨_, _, _, _, ⟨⟩, -⟩
  | ok arguments closing =>
    rw [reached_of_ok isList] at begins
    replace same := same.trans (bind_of_ok isList)
    cases closes : expect (.mark .emDash) "Expect '—' after arguments." closing with
    | error fault stopped =>
      obtain ⟨-, rfl, -⟩ := expect_eq_error_iff.mp closes
      refine covers_of_error (same.trans (bind_of_error closes)) begins fun opened => ?_
      rw [comes, isList, List.mem_singleton]
      refine or_iff_left ?_
      rintro ⟨_, _, _, _, ⟨⟩, impossible, -⟩
      cases closes.symm.trans impossible
    | ok paren last =>
      have shorter : last.left < pass.left := by
        have toList := left_lt_of_take? taken
        have overList := ((forward_listed _ _).done isList).left_le
        have toLast := (expect_eq_ok_iff.mp closes).1.left_le
        omega
      have closed : pass.Tallies ([list].map (Listing.mk .arguments)) last :=
        begins.trans (.of_tokens (expect_eq_ok_iff.mp closes).1)
      refine (each arguments paren last shorter).prepend (same.trans (bind_of_ok closes)) closed
        fun opened => ?_
      rw [comes, List.mem_singleton]
      refine or_congr_right ⟨?_, fun comes => ⟨_, _, _, _, isList, closes, comes⟩⟩
      rintro ⟨_, _, _, _, isList', closes', comes⟩
      cases isList.symm.trans isList'
      cases closes.symm.trans closes'
      exact comes

theorem covers_callsOn (callee : Expr) (pass : Pass) :
    Covers (callsOn callee) [.mark .emDash] pass (BehindOperand pass) := by
  induction length : pass.left using Nat.strongRecOn generalizing callee pass with
  | ind length inductionHypothesis =>
    subst length
    have unbounded := congrFun (callsOn_eq callee) pass
    cases taken : take? [.mark .emDash] pass with
    | error => exact absurd taken take?_ne_error
    | ok dash list =>
      rw [bind_of_ok taken] at unbounded
      cases dash with
      | none =>
        obtain ⟨rfl, clear⟩ := take?_eq_none_ok_iff.mp taken
        exact (covers_pure callee clear).prepend unbounded (.refl _)
          fun _ => (or_iff_right List.not_mem_nil).symm
      | some dash =>
        exact covers_opened taken unbounded fun arguments paren last shorter =>
          inductionHypothesis _ shorter (.call callee arguments paren) last rfl

theorem covers_call (clear : pass.Clear [.word .not]) :
    Covers call [.mark .emDash] pass (FromOperand pass) := by
  have first : Covers primary [] pass (FromOperand pass) := by
    refine ⟨⟨[], silent_primary pass, fun opened => ?_⟩, fun _ _ _ isKind => by cases isKind⟩
    rw [fromOperand_iff_of_clear clear]
    exact (or_iff_right List.not_mem_nil).symm
  exact first.bind fun callee middle _ _ => covers_callsOn callee middle

theorem covers_unary (pass : Pass) : Covers unary [.mark .emDash] pass (FromOperand pass) := by
  induction length : pass.left using Nat.strongRecOn generalizing pass with
  | ind length inductionHypothesis =>
    subst length
    rw [unary_eq]
    cases taken : take? [.word .not] pass with
    | error => exact absurd taken take?_ne_error
    | ok operator middle =>
      cases operator with
      | none =>
        obtain ⟨rfl, clear⟩ := take?_eq_none_ok_iff.mp taken
        exact .after (silent_take? _) taken (fun _ => Iff.rfl) (covers_call clear)
      | some operator =>
        have operand := inductionHypothesis _ (left_lt_of_take? taken) middle rfl
        exact .after (silent_take? _) taken (fun _ => fromOperand_iff_of_not taken)
          (operand.bind fun _ _ _ clear => covers_pure _ clear)

section Chains

variable {operators : List Kind} {join : Expr → Token → Expr → Expr} {operand : Reading Expr}

theorem covers_chainOn (isOperator : ∀ kind ∈ operators, kind ∈ Kind.operators)
    (inside : ∀ kind ∈ operators, kind ∈ Kind.inner) (forward : operand.Forward (· ∈ Kind.inner))
    (each : ∀ pass, Covers operand follow pass (FromOperand pass)) (left : Expr) (pass : Pass)
    (clear : pass.Clear follow) :
    Covers (chainOn operators inside join operand forward left) (operators ++ follow) pass
      (BehindOperand pass) := by
  induction length : pass.left using Nat.strongRecOn generalizing left pass with
  | ind length inductionHypothesis =>
    subst length
    rw [chainOn_eq forward left]
    cases taken : take? operators pass with
    | error => exact absurd taken take?_ne_error
    | ok operator middle =>
      cases operator with
      | none =>
        obtain ⟨rfl, noOperator⟩ := take?_eq_none_ok_iff.mp taken
        exact .after (silent_take? _) taken (fun _ => Iff.rfl)
          (covers_pure left (noOperator.append clear))
      | some operator =>
        refine .after (silent_take? _) taken
          (fun _ => behindOperand_iff_of_operator isOperator taken)
          ((each middle).bind fun right last done clear => ?_)
        have toOperand := left_lt_of_take? taken
        have overOperand := (forward.done done).left_le
        exact inductionHypothesis _ (by omega) _ last clear rfl

theorem covers_chain (isOperator : ∀ kind ∈ operators, kind ∈ Kind.operators)
    (inside : ∀ kind ∈ operators, kind ∈ Kind.inner) (progress : operand.Progress (· ∈ Kind.inner))
    (each : ∀ pass, Covers operand follow pass (FromOperand pass)) (pass : Pass) :
    Covers (chain operators inside join operand progress) (operators ++ follow) pass
      (FromOperand pass) :=
  (each pass).bind fun left middle _ clear =>
    covers_chainOn isOperator inside progress.toForward each left middle clear

end Chains

theorem covers_disjunction (pass : Pass) :
    Covers disjunction disjunctionFollow pass (FromOperand pass) :=
  covers_chain (by decide) (by decide) progress_conjunction
    (covers_chain (by decide) (by decide) progress_equality
      (covers_chain (by decide) (by decide) progress_unary covers_unary)) pass

/-- What can follow an expression opens no list. -/
theorem not_behindOperand_of_follow {opened : Pass}
    (clear : pass.Clear (.word .be :: disjunctionFollow)) : ¬ BehindOperand pass opened :=
  not_behindOperand (clear.mono (by decide))

/-- A target is reported where its value ends, and behind this no list comes. -/
theorem covers_assigned (target : Expr) (be : Token) (value : Expr)
    (clear : pass.Clear (.word .be :: disjunctionFollow)) :
    Covers (assigned target be value) (.word .be :: disjunctionFollow) pass
      (BehindOperand pass) := by
  have stays : ∀ {result next}, assigned target be value pass = .ok result next →
      next.Clear (.word .be :: disjunctionFollow) := by
    intro result next done
    unfold assigned at done
    split at done <;> cases done <;> exact clear
  refine ⟨⟨[], silent_assigned target be value pass, fun opened => ?_⟩, stays⟩
  refine iff_of_false (not_behindOperand_of_follow clear) ?_
  rintro (member | ⟨_, _, done, comes⟩)
  · exact absurd member List.not_mem_nil
  · exact not_behindOperand_of_follow (stays done) comes

theorem covers_expression (pass : Pass) :
    Covers expression (.word .be :: disjunctionFollow) pass (FromOperand pass) := by
  induction length : pass.left using Nat.strongRecOn generalizing pass with
  | ind length inductionHypothesis =>
    subst length
    rw [expression_eq]
    refine (covers_disjunction pass).bind fun target middle done clear => ?_
    cases taken : take? [.word .be] middle with
    | error => exact absurd taken take?_ne_error
    | ok be last =>
      cases be with
      | none =>
        obtain ⟨rfl, noBe⟩ := take?_eq_none_ok_iff.mp taken
        exact .after (silent_take? _) taken (fun _ => Iff.rfl)
          (covers_pure target (noBe.append clear))
      | some be =>
        have overTarget := (progress_disjunction.done done).left_le
        have toValue := left_lt_of_take? taken
        have value := inductionHypothesis _ (by omega) last rfl
        exact .after (silent_take? _) taken
          (fun _ => behindOperand_iff_of_operator (by decide) taken)
          (value.bind fun value _ _ clear => covers_assigned target be value clear)

theorem tallied_expression (pass : Pass) : Tallied expression pass (HasArguments pass) := by
  obtain ⟨⟨lists, tallies, isRead⟩, clear⟩ := covers_expression pass
  have comes (opened : Pass) : FromOperand pass opened ↔ opened ∈ lists := by
    rw [isRead]
    refine or_iff_left ?_
    rintro ⟨_, _, done, comes⟩
    exact not_behindOperand_of_follow (clear done) comes
  refine ⟨_, tallies, fun list => ?_⟩
  rw [HasArguments, comes, List.mem_map]
  constructor
  · rintro ⟨form, member⟩
    exact ⟨list.begun, member, form ▸ rfl⟩
  · rintro ⟨opened, member, rfl⟩
    exact ⟨rfl, member⟩

theorem tallied_expressionUnless (kind : Kind) (pass : Pass) :
    Tallied (expressionUnless kind) pass fun list =>
      pass.check kind = false ∧ HasArguments pass list := by
  cases check : pass.check kind with
  | true =>
    have done : expressionUnless kind pass = .ok none pass := by
      rw [expressionUnless, if_pos check]
    refine ⟨[], ?_, fun list => ?_⟩
    · rw [reached_of_ok done]
      exact .refl pass
    · exact iff_of_false (fun both => Bool.noConfusion both.1) List.not_mem_nil
  | false =>
    have goes : expressionUnless kind pass =
        (expression >>= fun expr => pure (some expr)) pass := by
      rw [expressionUnless, check, bind_pure_comp]
      rfl
    obtain ⟨lists, tallies, isRead⟩ := (tallied_expression pass).bind_silent
      fun expr => silent_pure (some expr)
    refine ⟨lists, ?_, fun list => (and_iff_right rfl).trans (isRead list)⟩
    rwa [reached, goes]

/-- What is only read behind a token of some kinds has lists only behind it. -/
theorem tallied_take? {kinds : List Kind} {rest : Option Token → Reading β}
    {has' : Token → Pass → Listing → Prop} (without : Silent (rest none))
    (behind : ∀ token middle, take? kinds pass = .ok (some token) middle →
      Tallied (rest (some token)) middle (has' token middle)) :
    Tallied (take? kinds >>= rest) pass fun list =>
      ∃ token middle, take? kinds pass = .ok (some token) middle ∧ has' token middle list := by
  have each : ∀ found middle, take? kinds pass = .ok found middle →
      Tallied (rest found) middle fun list =>
        ∃ token, found = some token ∧ has' token middle list := by
    intro found middle taken
    cases found with
    | none =>
      refine (without.tallied middle).congr fun list => iff_of_false ?_ id
      rintro ⟨_, ⟨⟩, -⟩
    | some token =>
      refine (behind token middle taken).congr fun list => ?_
      refine ⟨?_, fun has => ⟨token, rfl, has⟩⟩
      rintro ⟨_, ⟨⟩, has⟩
      exact has
  refine ((silent_take? kinds).bind_tallied each).congr fun list => ?_
  constructor
  · rintro ⟨token, middle, taken, has⟩
    exact ⟨_, middle, taken, token, rfl, has⟩
  · rintro ⟨_, middle, taken, token, rfl, has⟩
    exact ⟨token, middle, taken, has⟩

theorem tallied_expressionAfter (kind : Kind) (pass : Pass) :
    Tallied (expressionAfter kind) pass fun list =>
      ∃ token middle, take? [kind] pass = .ok (some token) middle ∧ HasArguments middle list :=
  tallied_take? (silent_pure _) fun _ middle _ =>
    (tallied_expression middle).bind_silent fun _ => silent_pure _

end Reading

end Parlance
