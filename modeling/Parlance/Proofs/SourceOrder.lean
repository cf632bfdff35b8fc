/-
This file says in which order the reports of a program come. Most of them stand in the order of the
source: a report blames a token no earlier than the reports before it do. There is one exception. A
target that is no variable is blamed only when the value assigned to it has been read, so what is
reported of the value comes first, although it stands behind the target. The exception is exact: two
reports stand in the wrong order if and only if one blames a target, the other one is not fatal, and
all tokens from the one to the other are such as expressions are made of. A pass is said to be
settled when a token of another kind stands between each target that was blamed and the current
token; every statement leaves a settled pass, and only inside an expression it may not be settled.
-/

import Parlance.Proofs.Located
import Parlance.Proofs.Minor

namespace Parlance

/-- The offset at which a token begins. -/
def Token.offset (token : Token) : Nat :=
  token.span.start.offset.toNat

/-! ### The order of two reports -/

namespace Diagnostic

/-- A report that is not fatal is about the value assigned to a target that another report blames:
from the target to the token of the report, all tokens are such as expressions are made of. -/
structure InValueOf (all : List Token) (report target : Diagnostic) : Prop where
  badTarget : target.fault.cause = .badTarget
  minor : report.fault.cause.fatal = false
  behind : target.token.offset < report.token.offset
  inner : ∀ token ∈ all, target.token.offset < token.offset →
    token.offset ≤ report.token.offset → token.kind ∈ Kind.inner

/-- A report comes before another one: it is about the value assigned to the target that the other
one blames, or else it is not behind it in the source. -/
def Precedes (all : List Token) (earlier later : Diagnostic) : Prop :=
  earlier.token.offset ≤ later.token.offset ∧ ¬ later.InValueOf all earlier ∨
    earlier.InValueOf all later

variable {all : List Token} {earlier later : Diagnostic}

theorem precedes_of_noTarget (le : earlier.token.offset ≤ later.token.offset)
    (noTarget : earlier.fault.cause ≠ .badTarget) : Precedes all earlier later :=
  .inl ⟨le, fun inValue => noTarget inValue.badTarget⟩

theorem precedes_of_fatal (le : earlier.token.offset ≤ later.token.offset)
    (fatal : later.fault.cause.fatal = true) : Precedes all earlier later :=
  .inl ⟨le, fun inValue => Bool.false_ne_true (inValue.minor.symm.trans fatal)⟩

/-- Reports come in the order of the source exactly if none of them is about the value assigned to a
target that is blamed too. -/
theorem pairwise_le_iff {reports : List Diagnostic} (inOrder : reports.Pairwise (Precedes all)) :
    (reports.Pairwise fun earlier later => earlier.token.offset ≤ later.token.offset) ↔
      ∀ report ∈ reports, ∀ target ∈ reports, ¬ report.InValueOf all target := by
  induction inOrder with
  | nil => simp
  | @cons first reports precedes _ inductionHypothesis =>
    have irreflexive : ¬ first.InValueOf all first := fun inValue => Nat.lt_irrefl _ inValue.behind
    rw [List.pairwise_cons, inductionHypothesis]
    constructor
    · rintro ⟨le, none⟩ report isReport target isTarget inValue
      rcases List.mem_cons.mp isReport with rfl | inRest <;>
        rcases List.mem_cons.mp isTarget with rfl | inRest'
      · exact irreflexive inValue
      · exact absurd inValue.behind (Nat.not_lt.mpr (le target inRest'))
      · rcases precedes report inRest with ⟨-, notInValue⟩ | inValue'
        · exact notInValue inValue
        · exact absurd inValue.behind (Nat.lt_asymm inValue'.behind)
      · exact none report inRest target inRest' inValue
    · refine fun none => ⟨fun later isLater => ?_, fun report isReport target isTarget =>
        none report (List.mem_cons_of_mem _ isReport) target (List.mem_cons_of_mem _ isTarget)⟩
      rcases precedes later isLater with ⟨le, -⟩ | inValue
      · exact le
      · exact absurd inValue (none first List.mem_cons_self later
          (List.mem_cons_of_mem _ isLater))

end Diagnostic

open Diagnostic

/-! ### Reports about an expression -/

/-- Of tokens in order, those from behind a first one up to a last one are between the two. -/
theorem Token.mem_slice {front slice rest : List Token} {first last token : Token}
    (strict : (front ++ first :: (slice ++ rest)).Pairwise (·.offset < ·.offset))
    (isLast : last ∈ slice) (member : token ∈ front ++ first :: (slice ++ rest))
    (behind : first.offset < token.offset) (le : token.offset ≤ last.offset) : token ∈ slice := by
  obtain ⟨-, strict, before⟩ := List.pairwise_append.mp strict
  obtain ⟨-, strict⟩ := List.pairwise_cons.mp strict
  obtain ⟨-, -, after⟩ := List.pairwise_append.mp strict
  rcases List.mem_append.mp member with member | member
  · exact absurd (before token member first List.mem_cons_self) (Nat.lt_asymm behind)
  rcases List.mem_cons.mp member with rfl | member
  · exact absurd behind (Nat.lt_irrefl _)
  rcases List.mem_append.mp member with member | member
  · exact member
  · exact absurd (after last isLast token member) (Nat.not_lt.mpr le)

section Expressions

variable {all tokens : List Token} {reports : List Diagnostic}

theorem AreOverlong.noTarget (overlong : AreOverlong tokens reports) :
    ∀ report ∈ reports, report.fault.cause ≠ .badTarget := by
  intro report member isTarget
  obtain ⟨what, cause⟩ := overlong.cause report member
  rw [cause] at isTarget
  cases isTarget

theorem AreOverlong.pairwise (overlong : AreOverlong tokens reports)
    (strict : tokens.Pairwise (·.offset < ·.offset)) : reports.Pairwise (Precedes all) := by
  have pairs := List.pairwise_map.mp (strict.sublist overlong.sublist)
  exact pairs.imp_of_mem fun member _ lt =>
    precedes_of_noTarget (Nat.le_of_lt lt) (overlong.noTarget _ member)

/-- What is reported of a target's lists comes before all that is reported behind the target. -/
theorem AreOverlong.pairwise_append {tokens' : List Token} {reports' : List Diagnostic}
    (overlong : AreOverlong tokens reports)
    (strict : (tokens ++ tokens').Pairwise (·.offset < ·.offset))
    (member : ∀ report ∈ reports', report.token ∈ tokens')
    (pairwise : reports'.Pairwise (Precedes all)) :
    (reports ++ reports').Pairwise (Precedes all) := by
  obtain ⟨strict, -, before⟩ := List.pairwise_append.mp strict
  refine List.pairwise_append.mpr ⟨overlong.pairwise strict, pairwise, ?_⟩
  intro earlier isEarlier later isLater
  have lt := before _ (overlong.mem isEarlier) _ (member later isLater)
  exact precedes_of_noTarget (Nat.le_of_lt lt) (overlong.noTarget earlier isEarlier)

/-- What is told of an expression is told in order, if a target's value counts as in front of it. -/
theorem ToldOf.pairwise (told : ToldOf tokens reports)
    (strict : all.Pairwise (·.offset < ·.offset)) (inside : tokens <:+: all)
    (inner : ∀ token ∈ tokens, token.kind ∈ Kind.inner) : reports.Pairwise (Precedes all) := by
  have here := strict.sublist inside.sublist
  induction told with
  | value overlong => exact overlong.pairwise here
  | @assign tokens reports be tokens' reports' overlong told inductionHypothesis =>
    have suffix : tokens' <:+ tokens ++ be :: tokens' :=
      (List.suffix_cons be tokens').trans (List.suffix_append _ _)
    refine overlong.pairwise_append here (fun report member => ?_)
      (inductionHypothesis (suffix.isInfix.trans inside)
        (fun token member => inner token (suffix.mem member)) (here.sublist suffix.sublist))
    exact List.mem_cons_of_mem be (told.mem report member)
  | @dropped tokens reports be tokens' reports' overlong told inductionHypothesis =>
    have suffix : tokens' <:+ tokens ++ be :: tokens' :=
      (List.suffix_cons be tokens').trans (List.suffix_append _ _)
    have value := inductionHypothesis (suffix.isInfix.trans inside)
      (fun token member => inner token (suffix.mem member)) (here.sublist suffix.sublist)
    refine overlong.pairwise_append here (fun report member => ?_) ?_
    · rcases List.mem_append.mp member with member | member
      · exact List.mem_cons_of_mem be (told.mem report member)
      · rw [List.mem_singleton.mp member]
        exact List.mem_cons_self
    · refine List.pairwise_append.mpr ⟨value, List.pairwise_singleton _ _, ?_⟩
      intro earlier isEarlier later isLater
      obtain rfl := List.mem_singleton.mp isLater
      have isRead := told.mem earlier isEarlier
      obtain ⟨-, strict', -⟩ := List.pairwise_append.mp here
      have behind := (List.pairwise_cons.mp strict').1 _ isRead
      refine .inr ⟨rfl, told.minor earlier isEarlier, behind, fun token member after upTo => ?_⟩
      obtain ⟨front, rest, rfl⟩ := inside
      have split : front ++ (tokens ++ be :: tokens') ++ rest =
          (front ++ tokens) ++ be :: (tokens' ++ rest) := by simp
      rw [split] at strict member
      exact inner token (suffix.mem (Token.mem_slice strict isRead member after upTo))

end Expressions

/-! ### Settled passes -/

namespace Pass

/-- The tokens that are ahead begin with the current one. -/
theorem exists_ahead_append (pass : Pass) :
    ∃ rest, pass.ahead ++ [pass.final] = pass.current :: rest := by
  cases ahead : pass.ahead with
  | nil => exact ⟨[], by rw [current_of_nil ahead]; rfl⟩
  | cons token rest => exact ⟨rest ++ [pass.final], by rw [current_of_ahead ahead]; rfl⟩

/-- Behind the tokens that are read the current one follows. -/
theorem Reads.exists_ahead_append {pass next : Pass} {tokens : List Token}
    {reports : List Diagnostic} (reads : pass.Reads tokens reports next) :
    ∃ rest, pass.ahead ++ [pass.final] = tokens ++ next.current :: rest := by
  obtain ⟨rest, ahead⟩ := next.exists_ahead_append
  exact ⟨rest, by rw [reads.ahead, ← reads.final, List.append_assoc, ahead]⟩

/-- A pass over tokens in order has reported in order, and nothing behind the current token. -/
structure Steady (all : List Token) (pass : Pass) : Prop where
  whole : pass.tokens ++ [pass.final] = all
  strict : all.Pairwise (·.offset < ·.offset)
  inOrder : pass.log.reported.Pairwise (Precedes all)
  reached : ∀ report ∈ pass.log.reported, report.token.offset ≤ pass.current.offset
  passed : ∀ report ∈ pass.log.reported, report.fault.cause = .badTarget →
    report.token.offset < pass.current.offset

/-- Between each target that was blamed and the current token, or at this, stands a token that no
expression has. -/
structure Settled (all : List Token) (pass : Pass) : Prop extends Steady all pass where
  closed : ∀ report ∈ pass.log.reported, report.fault.cause = .badTarget → ∃ token ∈ all,
    report.token.offset < token.offset ∧ token.offset ≤ pass.current.offset ∧
      token.kind ∉ Kind.inner

variable {all tokens : List Token} {reports : List Diagnostic} {pass next : Pass}

namespace Steady

theorem exists_split (steady : pass.Steady all) (reads : pass.Reads tokens reports next) :
    ∃ rest, all = pass.behind.reverse ++ (tokens ++ next.current :: rest) := by
  obtain ⟨rest, ahead⟩ := reads.exists_ahead_append
  exact ⟨rest, by rw [← steady.whole, Pass.tokens, List.append_assoc, ahead]⟩

/-- What is read and the token behind it are in order. -/
theorem pairwise_tokens (steady : pass.Steady all) (reads : pass.Reads tokens reports next) :
    (tokens ++ [next.current]).Pairwise (·.offset < ·.offset) := by
  obtain ⟨rest, split⟩ := steady.exists_split reads
  have strict := (List.pairwise_append.mp (split ▸ steady.strict)).2.1
  refine strict.sublist ((List.Sublist.refl tokens).append ?_)
  exact (List.nil_sublist rest).cons_cons next.current

theorem lt_current (steady : pass.Steady all) (reads : pass.Reads tokens reports next)
    {token : Token} (member : token ∈ tokens) : token.offset < next.current.offset :=
  (List.pairwise_append.mp (steady.pairwise_tokens reads)).2.2 token member _
    (List.mem_singleton_self _)

theorem le_current (steady : pass.Steady all) (reads : pass.Reads tokens reports next)
    {token : Token} (member : token ∈ tokens ++ [next.current]) :
    token.offset ≤ next.current.offset := by
  rcases List.mem_append.mp member with isRead | isNext
  · exact Nat.le_of_lt (steady.lt_current reads isRead)
  · exact Nat.le_of_eq (congrArg Token.offset (List.mem_singleton.mp isNext))

theorem current_le (steady : pass.Steady all) (reads : pass.Reads tokens reports next)
    {token : Token} (member : token ∈ tokens ++ [next.current]) :
    pass.current.offset ≤ token.offset := by
  have ordered := steady.pairwise_tokens reads
  cases tokens with
  | nil =>
    obtain rfl := List.mem_singleton.mp member
    exact Nat.le_of_eq (congrArg Token.offset reads.current_eq_of_nil)
  | cons first rest =>
    rw [current_of_ahead reads.ahead]
    rcases List.mem_cons.mp member with rfl | member
    · exact Nat.le_refl _
    · exact Nat.le_of_lt ((List.pairwise_cons.mp ordered).1 token member)

theorem current_le_current (steady : pass.Steady all) (reads : pass.Reads tokens reports next) :
    pass.current.offset ≤ next.current.offset :=
  steady.current_le reads (List.mem_append_right _ (List.mem_singleton_self _))

theorem mem_all (steady : pass.Steady all) (reads : pass.Reads tokens reports next) {token : Token}
    (member : token ∈ tokens ++ [next.current]) : token ∈ all := by
  obtain ⟨rest, rfl⟩ := steady.exists_split reads
  rcases List.mem_append.mp member with member | member
  · exact List.mem_append_right _ (List.mem_append_left _ member)
  · rw [List.mem_singleton.mp member]
    exact List.mem_append_right _ (List.mem_append_right _ List.mem_cons_self)

/-- Reports that are in order among themselves and behind the others, about tokens that were read or
the next one, keep a pass steady. -/
theorem of_reads (steady : pass.Steady all) (reads : pass.Reads tokens reports next)
    (member : ∀ report ∈ reports, report.token ∈ tokens ++ [next.current])
    (targets : ∀ report ∈ reports, report.fault.cause = .badTarget → report.token ∈ tokens)
    (inOrder : reports.Pairwise (Precedes all))
    (apart : ∀ earlier ∈ pass.log.reported, ∀ later ∈ reports, Precedes all earlier later) :
    next.Steady all where
  whole := reads.all_tokens.trans steady.whole
  strict := steady.strict
  inOrder := by
    rw [reads.log]
    exact List.pairwise_append.mpr ⟨steady.inOrder, inOrder, apart⟩
  reached := by
    rw [reads.log]
    refine List.forall_mem_append.mpr ⟨fun report isReport => ?_, fun report isReport => ?_⟩
    · exact Nat.le_trans (steady.reached report isReport) (steady.current_le_current reads)
    · exact steady.le_current reads (member report isReport)
  passed := by
    rw [reads.log]
    refine List.forall_mem_append.mpr ⟨fun report isReport isTarget => ?_,
      fun report isReport isTarget => ?_⟩
    · exact Nat.lt_of_lt_of_le (steady.passed report isReport isTarget)
        (steady.current_le_current reads)
    · exact steady.lt_current reads (targets report isReport isTarget)

theorem of_tokens (steady : pass.Steady all) (reads : pass.Reads tokens [] next) :
    next.Steady all :=
  steady.of_reads reads (fun _ member => absurd member List.not_mem_nil)
    (fun _ member => absurd member List.not_mem_nil) .nil
    fun _ _ _ member => absurd member List.not_mem_nil

/-- A pass settles when a token is read, or becomes the current one, that no expression has. -/
theorem settled_of_mem (steady : pass.Steady all) (reads : pass.Reads tokens [] next)
    {token : Token} (member : token ∈ tokens ++ [next.current])
    (outside : token.kind ∉ Kind.inner) : next.Settled all where
  toSteady := steady.of_tokens reads
  closed := by
    rw [reads.log, List.append_nil]
    refine fun report isReport isTarget => ⟨token, steady.mem_all reads member, ?_, ?_, outside⟩
    · exact Nat.lt_of_lt_of_le (steady.passed report isReport isTarget)
        (steady.current_le reads member)
    · exact steady.le_current reads member

/-- A fatal report blames the current token and comes last. -/
theorem reportFault (steady : pass.Steady all) {fault : Fault} (fatal : fault.cause.fatal = true) :
    (pass.reportFault pass.current fault).Steady all := by
  refine steady.of_reads (reads_reportFault pass pass.current fault) ?_ ?_
    (List.pairwise_singleton _ _) ?_
  · exact List.forall_mem_singleton.mpr (List.mem_singleton_self _)
  · refine List.forall_mem_singleton.mpr fun isTarget => ?_
    rw [isTarget] at fatal
    cases fatal
  · intro earlier isEarlier later isLater
    obtain rfl := List.mem_singleton.mp isLater
    exact precedes_of_fatal (steady.reached earlier isEarlier) fatal

end Steady

namespace Settled

/-- What is reported from a settled pass on is in no value of a target that was blamed before. -/
theorem steady_of_reads (settled : pass.Settled all) (reads : pass.Reads tokens reports next)
    (member : ∀ report ∈ reports, report.token ∈ tokens ++ [next.current])
    (targets : ∀ report ∈ reports, report.fault.cause = .badTarget → report.token ∈ tokens)
    (inOrder : reports.Pairwise (Precedes all)) : next.Steady all := by
  refine settled.toSteady.of_reads reads member targets inOrder ?_
  intro earlier isEarlier later isLater
  have upTo := settled.current_le reads (member later isLater)
  refine .inl ⟨Nat.le_trans (settled.reached earlier isEarlier) upTo, fun inValue => ?_⟩
  obtain ⟨token, isToken, behind, le, outside⟩ := settled.closed earlier isEarlier inValue.badTarget
  exact outside (inValue.inner token isToken behind (Nat.le_trans le upTo))

/-- Lists that are too long keep a pass settled. -/
theorem of_overlong (settled : pass.Settled all) (reads : pass.Reads tokens reports next)
    (overlong : AreOverlong (tokens ++ [next.current]) reports) : next.Settled all where
  toSteady := settled.steady_of_reads reads (fun _ => overlong.mem)
    (fun report member isTarget => absurd isTarget (overlong.noTarget report member))
    (overlong.pairwise (settled.pairwise_tokens reads))
  closed := by
    rw [reads.log]
    refine List.forall_mem_append.mpr ⟨fun report isReport isTarget => ?_,
      fun report isReport isTarget => absurd isTarget (overlong.noTarget report isReport)⟩
    obtain ⟨token, isToken, behind, le, outside⟩ := settled.closed report isReport isTarget
    exact ⟨token, isToken, behind, Nat.le_trans le (settled.current_le_current reads), outside⟩

/-- An expression leaves a settled pass steady. -/
theorem of_told (settled : pass.Settled all) (reads : pass.Reads tokens reports next)
    (told : ToldOf tokens reports) (inner : ∀ token ∈ tokens, token.kind ∈ Kind.inner) :
    next.Steady all := by
  have member := told.mem
  refine settled.steady_of_reads reads
    (fun report isReport => List.mem_append_left _ (member report isReport))
    (fun report isReport _ => member report isReport) (told.pairwise settled.strict ?_ inner)
  obtain ⟨rest, split⟩ := settled.exists_split reads
  exact ⟨_, _, by rw [split, List.append_assoc]⟩

end Settled

/-! ### Recovery -/

/-- Skipping stops at the end, behind a semicolon, or in front of what begins a statement. -/
theorem skip_stops (pass : Pass) : pass.skip.atEnd = true ∨
    pass.skip.previous.kind = .mark .semicolon ∨ pass.skip.current.kind ∈ Kind.openers := by
  fun_induction skip pass with
  | case1 pass ended => exact .inl ended
  | case2 pass _ isSemicolon => exact .inr (.inl isSemicolon)
  | case3 pass _ _ isOpener => exact .inr (.inr isOpener)
  | case4 _ _ _ _ inductionHypothesis => exact inductionHypothesis

/-- The previous token is the last one of those that were read. -/
theorem Reads.previous_mem (reads : pass.Reads tokens reports next) (some : tokens ≠ []) :
    next.previous ∈ tokens := by
  obtain ⟨front, last, rfl⟩ := List.eq_nil_or_concat tokens |>.resolve_left some
  rw [List.concat_eq_append] at reads ⊢
  have isLast : next.previous = last := by
    rw [Pass.previous_eq, reads.behind, List.reverse_append]
    rfl
  rw [isLast]
  exact List.mem_append_right front (List.mem_singleton_self last)

/-- No expression has a token that begins a statement. -/
theorem notInner_of_opener : ∀ kind ∈ Kind.openers, kind ∉ Kind.inner := by
  decide

/-- Synchronizing settles a pass. -/
theorem Steady.synchronize (steady : pass.Steady all) : pass.synchronize.Settled all := by
  cases ahead : pass.ahead with
  | nil =>
    rw [synchronize_of_nil ahead]
    have isEof : pass.current.kind ∉ Kind.inner := by
      rw [kind_current_of_nil ahead]
      decide
    exact steady.settled_of_mem (Reads.refl pass) (List.mem_singleton_self _) isEof
  | cons token rest =>
    obtain ⟨tokens, reads⟩ := reads_synchronize ahead
    have next : pass.synchronize.current ∈ token :: tokens ++ [pass.synchronize.current] :=
      List.mem_append_right _ (List.mem_singleton_self _)
    rcases pass.advance.skip_stops with ended | isSemicolon | isOpener
    · have isEof : pass.synchronize.current.kind = .eof := of_decide_eq_true ended
      refine steady.settled_of_mem reads next ?_
      rw [isEof]
      decide
    · have isSemicolon : pass.synchronize.previous.kind = .mark .semicolon := isSemicolon
      have isRead := reads.previous_mem (List.cons_ne_nil token tokens)
      refine steady.settled_of_mem reads (List.mem_append_left _ isRead) ?_
      rw [isSemicolon]
      decide
    · exact steady.settled_of_mem reads next (notInner_of_opener _ isOpener)

end Pass

/-! ### Runs from a settled pass -/

/-- A run leaves a settled pass settled, save that the pass may only be steady behind a value. Where
the run fails the pass is steady at least. -/
def Invariant.settled (all : List Token) : Invariant where
  holds
    | .value, pass => pass.Steady all
    | _, pass => pass.Settled all
  fails fault pass := pass.Steady all ∧ fault.cause.fatal = true

namespace Invariant

variable (all : List Token)

theorem settled_inExpressions : (settled all).InExpressions where
  item := id
  token {pass token next} holds reads := by
    have holds : pass.Settled all := holds
    exact holds.of_overlong reads (.nil _)
  overlong {pass} what holds := by
    have holds : pass.Settled all := holds
    exact holds.of_overlong (Pass.reads_report _ _ _) (.report what pass.current)
  fails {pass _} holds found := by
    have holds : pass.Settled all := holds
    exact ⟨holds.toSteady, found.fatal⟩

theorem settled_expression :
    (settled all).simulation.InStep .inside (Expr.Alike Eq) .value Reading.expression
      Reading.expression := by
  refine inStep_self (Expr.Alike.refl fun _ => rfl) (fun {pass _ next} settled done => ?_)
    fun {pass _ next} settled failed => ?_
  · have settled : pass.Settled all := settled
    obtain ⟨tokens, reports, reads, told⟩ := Reading.toldOf_expression done
    obtain ⟨tokens', reports', reads', inner⟩ := Reading.progress_expression.done done
    obtain rfl := reads'.tokens_eq reads
    exact settled.of_told reads told inner
  · have settled : pass.Settled all := settled
    obtain ⟨tokens, reports, reads, overlong⟩ := Reading.areOverlong_of_failed failed
    obtain ⟨-, cause, fatal, rfl⟩ := Reading.progress_expression.failed failed
    exact ⟨(settled.of_overlong reads overlong).toSteady, fatal⟩

theorem settled_inPrograms : (settled all).InPrograms where
  toInExpressions := settled_inExpressions all
  value {pass} holds := by
    have holds : pass.Settled all := holds
    exact holds.toSteady
  expression := settled_expression all
  semicolon {pass token next} holds reads isSemicolon := by
    have holds : pass.Steady all := holds
    refine holds.settled_of_mem reads (List.mem_append_left _ (List.mem_singleton_self token)) ?_
    rw [isSemicolon]
    decide
  noSemicolon _ holds := ⟨holds, rfl⟩
  body := id
  goesOn := id
  begins := id
  ended := id
  recovers fails := (fails.1.reportFault fails.2).synchronize

end Invariant

namespace Pass

theorem settled_start {tokens : List Token} {file : String}
    (strict : (Token.upToEof tokens file).Pairwise (·.offset < ·.offset)) :
    (start tokens file).Settled (Token.upToEof tokens file) where
  whole := upToEof_eq tokens file
  strict := strict
  inOrder := .nil
  reached _ member := absurd member List.not_mem_nil
  passed _ member := absurd member List.not_mem_nil
  closed _ member := absurd member List.not_mem_nil

/-- Reading all declarations leaves a settled pass settled. -/
theorem Settled.declarations {all : List Token} {pass : Pass} (settled : pass.Settled all) :
    pass.declarations.2.Settled all :=
  (Invariant.settled_inPrograms all).holds_declarations settled

end Pass

/-! ### Sources -/

/-- The tokens of a source that is not too long begin one behind the other. -/
theorem Token.pairwise_offset {source file : String} {tokens : List Token}
    (done : tokenize source file = .ok tokens) (short : Text.width source.toList < UInt32.size) :
    tokens.Pairwise (·.offset < ·.offset) := by
  obtain ⟨sites, rfl, stand, apart, -⟩ := tokenize_layout done
  have positive : ∀ site ∈ sites, site.start < site.stop := by
    intro site isSite
    obtain ⟨c, more, lexeme⟩ := List.exists_cons_of_ne_nil (stand site isSite).notEmpty
    rw [Site.stop, lexeme, Text.width_cons]
    exact Nat.lt_add_of_pos_right (Nat.add_pos_left c.utf8Size_pos _)
  have upTo : ∀ site ∈ sites, site.stop ≤ Text.width source.toList := by
    intro site isSite
    rw [← (stand site isSite).text, Text.width_append, Text.width_append]
    exact Nat.le_add_right _ _
  have offset : ∀ site ∈ sites, site.token.offset = site.start := by
    intro site isSite
    rw [Token.offset, (stand site isSite).span]
    exact toNat_toUInt32 (Nat.lt_trans (positive site isSite)
      (Nat.lt_of_le_of_lt (upTo site isSite) short))
  refine List.pairwise_append.mpr ⟨List.pairwise_map.mpr ?_, List.pairwise_singleton _ _, ?_⟩
  · refine apart.imp_of_mem fun {site later} isSite isLater le => ?_
    rw [offset site isSite, offset later isLater]
    exact Nat.lt_of_lt_of_le (positive site isSite) le
  · intro token isToken eof isEof
    obtain ⟨site, isSite, rfl⟩ := List.mem_map.mp isToken
    have last : eof.offset = Text.width source.toList := by
      rw [List.mem_singleton.mp isEof]
      exact toNat_toUInt32 short
    rw [offset site isSite, last]
    exact Nat.lt_of_lt_of_le (positive site isSite) (upTo site isSite)

/-- All tokens of a source stand in front of its only end token. -/
theorem Token.upToEof_of_tokenize {source file : String} {tokens : List Token}
    (done : tokenize source file = .ok tokens) : upToEof tokens file = tokens := by
  obtain ⟨before, eof, rfl, isEof, others⟩ := (tokenize_eq_ok_iff.mp done).exists_eof
  obtain ⟨ahead, final⟩ := Pass.start_append_eof others isEof [] file
  rw [← Pass.upToEof_eq, ahead, final]

namespace Program

/-- Where the reports of a program are located, in the order in which they came. -/
def offsets (program : Program) : List UInt32 :=
  program.log.reported.map (·.fault.position.offset)

variable {source file : String} {program : Program}

/-- The reports of a source come in its order, except that those about the value assigned to a
target come before the one that blames the target. So their positions never decrease exactly if
there are no two such reports. -/
theorem reported_in_order (read : ofSource source file = .ok program)
    (short : Text.width source.toList < UInt32.size) :
    ∃ tokens, tokenize source file = .ok tokens ∧
      program.log.reported.Pairwise (Precedes tokens) ∧
      (program.offsets.Pairwise (· ≤ ·) ↔ ∀ report ∈ program.log.reported,
        ∀ target ∈ program.log.reported, ¬ report.InValueOf tokens target) := by
  have position : ∀ report ∈ program.log.reported,
      report.fault.position.offset.toNat = report.token.offset := fun report member =>
    congrArg (·.offset.toNat) (located_of_report read member).1
  obtain ⟨tokens, done, rfl⟩ := exists_tokens read
  have all := Token.upToEof_of_tokenize done
  have settled := (Pass.settled_start (all.symm ▸ Token.pairwise_offset done short)).declarations
  rw [all] at settled
  have inOrder : (ofTokens tokens file).log.reported.Pairwise (Precedes tokens) := settled.inOrder
  refine ⟨tokens, done, inOrder, ?_⟩
  rw [← pairwise_le_iff inOrder, offsets, List.pairwise_map]
  refine List.Pairwise.iff_of_mem fun {earlier later} isEarlier isLater => ?_
  rw [UInt32.le_iff_toNat_le, position earlier isEarlier, position later isLater]

/-- What is read of a source can be computed. -/
theorem exists_of_offsets {expected : List UInt32}
    (found : (ofSource source file).toOption.map offsets = some expected) :
    ∃ program, ofSource source file = .ok program ∧ program.offsets = expected := by
  cases outcome : ofSource source file with
  | error fault =>
    rw [outcome] at found
    cases found
  | ok program =>
    rw [outcome] at found
    exact ⟨program, rfl, Option.some.inj found⟩

/-- Two targets that are no variables and a declaration without a name, between semicolons: none of
them is about a value of another one, and they come in order. -/
theorem reported_in_order_apart :
    ∃ program tokens, ofSource "1 be x; let; 2 be y;" "f" = .ok program ∧
      tokenize "1 be x; let; 2 be y;" "f" = .ok tokens ∧
      Text.width "1 be x; let; 2 be y;".toList < UInt32.size ∧ program.offsets = [2, 11, 15] ∧
      program.log.reported.Pairwise (Precedes tokens) ∧
      ∀ report ∈ program.log.reported, ∀ target ∈ program.log.reported,
        ¬ report.InValueOf tokens target := by
  obtain ⟨program, read, offsets⟩ : ∃ program,
      ofSource "1 be x; let; 2 be y;" "f" = .ok program ∧ program.offsets = [2, 11, 15] :=
    exists_of_offsets (by decide +kernel)
  have short : Text.width "1 be x; let; 2 be y;".toList < UInt32.size := by decide
  obtain ⟨tokens, done, inOrder, sorted_iff⟩ := reported_in_order read short
  have sorted : program.offsets.Pairwise (· ≤ ·) := by
    rw [offsets]
    decide
  exact ⟨program, tokens, read, done, short, offsets, inOrder, sorted_iff.mp sorted⟩

/-- The value assigned to a number is itself assigned to a number: the second `be` is blamed first,
so positions can decrease. -/
theorem reported_out_of_order :
    ∃ program, ofSource "1 be 2 be x;" "main.coem" = .ok program ∧ program.offsets = [7, 2] ∧
      ¬ program.offsets.Pairwise (· ≤ ·) := by
  obtain ⟨program, read, offsets⟩ : ∃ program,
      ofSource "1 be 2 be x;" "main.coem" = .ok program ∧ program.offsets = [7, 2] :=
    exists_of_offsets (by decide +kernel)
  refine ⟨program, read, offsets, ?_⟩
  rw [offsets]
  decide

end Program

end Parlance
