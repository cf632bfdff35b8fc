/-
This file says what is reported while an expression or the head of a statement is read, whether this
succeeds or not. There are only two such reports, and neither of them is fatal. A list that is too
long is reported at its first item too many, before this item is read; these reports therefore stand
in the order of the tokens they blame. A target that is no variable is reported at the token `be`
behind it, but only when the value has been read too, so it stands behind all reports about the
value; and where the value cannot be read, none of the targets in front of it is reported.
-/

import Parlance.Proofs.Invariant

namespace Parlance

/-! ### Lists that are too long -/

/-- Reports of lists that are too long, at some of the tokens and in their order. -/
structure AreOverlong (tokens : List Token) (reports : List Diagnostic) : Prop where
  sublist : (reports.map Diagnostic.token).Sublist tokens
  cause : ∀ report ∈ reports, ∃ what, report.fault.cause = .tooMany what maxArity

namespace AreOverlong

variable {tokens tokens' : List Token} {reports reports' : List Diagnostic}

theorem nil (tokens : List Token) : AreOverlong tokens [] :=
  ⟨List.nil_sublist tokens, fun _ member => absurd member List.not_mem_nil⟩

theorem append (first : AreOverlong tokens reports) (second : AreOverlong tokens' reports') :
    AreOverlong (tokens ++ tokens') (reports ++ reports') where
  sublist := by
    rw [List.map_append]
    exact first.sublist.append second.sublist
  cause := List.forall_mem_append.mpr ⟨first.cause, second.cause⟩

theorem mono (overlong : AreOverlong tokens reports) (part : tokens.Sublist tokens') :
    AreOverlong tokens' reports :=
  ⟨overlong.sublist.trans part, overlong.cause⟩

theorem mem (overlong : AreOverlong tokens reports) {report : Diagnostic}
    (member : report ∈ reports) : report.token ∈ tokens :=
  overlong.sublist.mem (List.mem_map_of_mem member)

theorem report (what : String) (token : Token) :
    AreOverlong [token] [⟨token, token.fault (.tooMany what maxArity)⟩] :=
  ⟨List.Sublist.refl _, List.forall_mem_singleton.mpr ⟨what, rfl⟩⟩

theorem minor (overlong : AreOverlong tokens reports) :
    ∀ report ∈ reports, report.fault.cause.fatal = false := by
  intro report member
  obtain ⟨what, cause⟩ := overlong.cause report member
  rw [cause]
  rfl

end AreOverlong

/-- From `first` on only lists that are too long were reported. The items that were blamed have been
read, except that the last of them may be the current token when it is looked at as an item or when
a failure is found. -/
def Invariant.overlong (first : Pass) : Invariant where
  holds
    | .item, pass => ∃ tokens reports, first.Reads tokens reports pass ∧
      AreOverlong (tokens ++ [pass.current]) reports
    | _, pass => ∃ tokens reports, first.Reads tokens reports pass ∧ AreOverlong tokens reports
  fails _ pass := ∃ tokens reports, first.Reads tokens reports pass ∧
    AreOverlong (tokens ++ [pass.current]) reports

theorem Invariant.overlong_kept (first : Pass) : (overlong first).InExpressions where
  item := by
    rintro pass ⟨tokens, reports, reads, areOverlong⟩
    exact ⟨tokens, reports, reads, areOverlong.mono (List.sublist_append_left tokens _)⟩
  token := by
    rintro pass token next ⟨tokens, reports, reads, areOverlong⟩ tokenReads
    rw [Pass.current_of_ahead tokenReads.ahead] at areOverlong
    exact ⟨_, _, reads.trans tokenReads, (List.append_nil reports).symm ▸ areOverlong⟩
  overlong := by
    rintro pass what ⟨tokens, reports, reads, areOverlong⟩
    refine ⟨_, _, reads.trans (Pass.reads_report pass pass.current _), ?_⟩
    rw [List.append_nil]
    exact areOverlong.append (.report what pass.current)
  fails holds _ := holds

namespace Reading

theorem overlong_disjunction {pass next : Pass} {expr : Expr}
    (done : disjunction pass = .ok expr next) :
    ∃ tokens reports, pass.Reads tokens reports next ∧ AreOverlong tokens reports :=
  Invariant.holds_of_outcomes ((Invariant.overlong_kept pass).toSimulation.inStep_disjunction
    ⟨rfl, [], [], Pass.Reads.refl pass, .nil []⟩) done

theorem overlong_disjunction_failed {pass next : Pass} {fault : Fault}
    (failed : disjunction pass = .error fault next) :
    ∃ tokens reports, pass.Reads tokens reports next ∧
      AreOverlong (tokens ++ [next.current]) reports :=
  Invariant.fails_of_outcomes ((Invariant.overlong_kept pass).toSimulation.inStep_disjunction
    ⟨rfl, [], [], Pass.Reads.refl pass, .nil []⟩) failed

end Reading

/-! ### Assignments -/

/-- What is reported of a value behind any number of targets, when all of them have been read: of
each target the lists that are too long, then the same of what stands behind its `be`, and last the
target itself if it is no variable. -/
inductive ToldOf : List Token → List Diagnostic → Prop
  | value {tokens reports} : AreOverlong tokens reports → ToldOf tokens reports
  | assign {tokens reports be tokens' reports'} : AreOverlong tokens reports →
      ToldOf tokens' reports' → ToldOf (tokens ++ be :: tokens') (reports ++ reports')
  | dropped {tokens reports be tokens' reports'} : AreOverlong tokens reports →
      ToldOf tokens' reports' →
      ToldOf (tokens ++ be :: tokens') (reports ++ (reports' ++ [⟨be, be.fault .badTarget⟩]))

namespace ToldOf

variable {tokens : List Token} {reports : List Diagnostic}

theorem mem (told : ToldOf tokens reports) : ∀ report ∈ reports, report.token ∈ tokens := by
  induction told with
  | value overlong => exact fun _ => overlong.mem
  | assign overlong _ inductionHypothesis =>
    intro report member
    rcases List.mem_append.mp member with member | member
    · exact List.mem_append_left _ (overlong.mem member)
    · exact List.mem_append_right _ (List.mem_cons_of_mem _ (inductionHypothesis report member))
  | dropped overlong _ inductionHypothesis =>
    intro report member
    rcases List.mem_append.mp member with member | member
    · exact List.mem_append_left _ (overlong.mem member)
    · rcases List.mem_append.mp member with member | member
      · exact List.mem_append_right _ (List.mem_cons_of_mem _ (inductionHypothesis report member))
      · rw [List.mem_singleton.mp member]
        exact List.mem_append_right _ List.mem_cons_self

theorem minor (told : ToldOf tokens reports) :
    ∀ report ∈ reports, report.fault.cause.fatal = false := by
  induction told with
  | value overlong => exact overlong.minor
  | assign overlong _ inductionHypothesis =>
    exact List.forall_mem_append.mpr ⟨overlong.minor, inductionHypothesis⟩
  | dropped overlong _ inductionHypothesis =>
    exact List.forall_mem_append.mpr ⟨overlong.minor, List.forall_mem_append.mpr
      ⟨inductionHypothesis, List.forall_mem_singleton.mpr rfl⟩⟩

end ToldOf

namespace Reading

/-- A target is told of behind its value, or not at all if it is a variable. -/
theorem toldOf_assigned {target value result : Expr} {be : Token} {start pass next : Pass}
    {tokens tokens' : List Token} {reports reports' : List Diagnostic}
    (overlong : AreOverlong tokens reports) (told : ToldOf tokens' reports')
    (reads : start.Reads (tokens ++ be :: tokens') (reports ++ reports') pass)
    (done : assigned target be value pass = .ok result next) :
    ∃ tokens reports, start.Reads tokens reports next ∧ ToldOf tokens reports := by
  unfold assigned at done
  split at done
  · cases done
    exact ⟨_, _, reads, .assign overlong told⟩
  · cases done
    refine ⟨_, _, (reads.trans (Pass.reads_report pass be .badTarget)).cast (List.append_nil _) ?_,
      .dropped overlong told⟩
    exact List.append_assoc _ _ _

theorem toldOf_expression {pass next : Pass} {expr : Expr}
    (done : expression pass = .ok expr next) :
    ∃ tokens reports, pass.Reads tokens reports next ∧ ToldOf tokens reports := by
  refine Recursion.assignment.value_induction
    (motive := fun _ pass _ next => ∃ tokens reports, pass.Reads tokens reports next ∧
      ToldOf tokens reports)
    (fun again _ inductionHypothesis {_ pass expr next} done => ?_) done
  obtain ⟨target, middle, targetDone, toBe⟩ := bind_eq_ok done
  obtain ⟨tokens, reports, reads, overlong⟩ := overlong_disjunction targetDone
  obtain ⟨be, behind, taken, toValue⟩ := bind_eq_ok toBe
  cases be with
  | none =>
    obtain ⟨rfl, -⟩ := take?_eq_none_ok_iff.mp taken
    obtain ⟨rfl, rfl⟩ := pure_eq_ok toValue
    exact ⟨tokens, reports, reads, .value overlong⟩
  | some be =>
    obtain ⟨beReads, -⟩ := take?_eq_some_ok_iff.mp taken
    obtain ⟨value, last, valueDone, finished⟩ := bind_eq_ok toValue
    obtain ⟨tokens', reports', reads', told⟩ := inductionHypothesis valueDone
    exact toldOf_assigned overlong told (reads.trans (beReads.trans reads')) finished

/-- Where no value can be read, the targets in front of it are not reported. -/
theorem areOverlong_of_failed {pass next : Pass} {fault : Fault}
    (failed : expression pass = .error fault next) :
    ∃ tokens reports, pass.Reads tokens reports next ∧
      AreOverlong (tokens ++ [next.current]) reports := by
  refine Recursion.assignment.read_induction
    (motive := fun _ pass outcome => ∀ {fault next}, outcome = .error fault next →
      ∃ tokens reports, pass.Reads tokens reports next ∧
        AreOverlong (tokens ++ [next.current]) reports)
    (fun _ pass fault next failed => ?_)
    (fun again _ inductionHypothesis _ pass fault next failed => ?_) () pass failed
  · cases failed
    exact ⟨[], [], Pass.Reads.refl pass, .nil _⟩
  rcases bind_eq_error failed with failed | ⟨target, middle, targetDone, failed⟩
  · exact overlong_disjunction_failed failed
  obtain ⟨tokens, reports, reads, overlong⟩ := overlong_disjunction targetDone
  rcases bind_eq_error failed with failed | ⟨be, behind, taken, failed⟩
  · exact absurd failed take?_ne_error
  cases be with
  | none => cases failed
  | some be =>
    obtain ⟨beReads, -⟩ := take?_eq_some_ok_iff.mp taken
    rcases bind_eq_error failed with failed | ⟨value, last, valueDone, failed⟩
    · obtain ⟨tokens', reports', reads', overlong'⟩ := inductionHypothesis _ _ failed
      refine ⟨_, _, reads.trans (beReads.trans reads'), ?_⟩
      rw [List.append_assoc]
      exact overlong.append ((AreOverlong.nil [be]).append overlong')
    · exact absurd failed (by unfold assigned; split <;> simp)

end Reading

end Parlance
