/-
This file proves that a declaration is read without a look behind the next semicolon. Two passes
that have the same tokens ahead up to a semicolon, with no colon among them, read a declaration from
these tokens in the same way, whatever stands behind the semicolon, as long as it is no `else`: both
give the same statement or both fail with the same fault, and both have read the same tokens and
reported the same. A failure stops in front of the semicolon or earlier, so what is passed over
after it ends with the semicolon too, unless something that begins a statement stands before.
-/

import Parlance.Proofs.Rules

namespace Parlance

/-- Tokens that end with their only semicolon and have no colon among them. -/
inductive Segment : List Token → Prop
  | last {semicolon : Token} : semicolon.kind = .mark .semicolon → Segment [semicolon]
  | more {token : Token} {tokens : List Token} : token.kind ≠ .mark .semicolon →
      token.kind ≠ .mark .colon → Segment tokens → Segment (token :: tokens)

namespace Segment

variable {token : Token} {tokens : List Token}

theorem exists_head (segment : Segment tokens) : ∃ token rest, tokens = token :: rest := by
  cases segment with
  | last _ => exact ⟨_, _, rfl⟩
  | more _ _ _ => exact ⟨_, _, rfl⟩

theorem tail (segment : Segment (token :: tokens)) (other : token.kind ≠ .mark .semicolon) :
    Segment tokens := by
  cases segment with
  | last isSemicolon => exact absurd isSemicolon other
  | more _ _ rest => exact rest

theorem nil_of_semicolon (segment : Segment (token :: tokens))
    (isSemicolon : token.kind = .mark .semicolon) : tokens = [] := by
  cases segment with
  | last _ => rfl
  | more other _ _ => exact absurd isSemicolon other

theorem head_ne_colon (segment : Segment (token :: tokens)) : token.kind ≠ .mark .colon := by
  cases segment with
  | last isSemicolon => rw [isSemicolon]; decide
  | more _ other _ => exact other

end Segment

namespace Pass

/-- A pass with a segment ahead and some other tokens behind it. -/
structure Faces (segment rest : List Token) (pass : Pass) : Prop where
  ahead : pass.ahead = segment ++ rest
  segment : Segment segment
  noElse : ∀ token ∈ rest.head?, token.kind ≠ .word .else_
  standard : pass.Standard

variable {pass next : Pass} {token : Token} {segment rest read left : List Token}
  {reports : List Diagnostic}

theorem Faces.ahead_of_reads (faces : pass.Faces (read ++ left) rest)
    (reads : pass.Reads read reports next) : next.ahead = left ++ rest := by
  have ahead := faces.ahead
  rw [reads.ahead, List.append_assoc] at ahead
  exact List.append_cancel_left ahead

end Pass

/-! ### Two runs in front of the same segment -/

/-- What is left of a segment at a stage. There is no body in it. -/
def Segment.LeftAt : Stage → List Token → Prop
  | .ended, left => left = []
  | .body, _ => False
  | _, left => Segment left

/-- Two runs that began at `first` and `first'`, in front of the same segment, have read the same
of it and reported the same. They fail with the same fault where some of the segment is left. -/
def Simulation.abreast (first first' : Pass) (segment : List Token) : Simulation where
  tokens := Eq
  passes stage pass pass' := ∃ read left reports, segment = read ++ left ∧
    Segment.LeftAt stage left ∧ first.Reads read reports pass ∧ first'.Reads read reports pass'
  faults fault pass fault' pass' := fault = fault' ∧
    ∃ read left reports, segment = read ++ left ∧ Segment left ∧ first.Reads read reports pass ∧
      first'.Reads read reports pass'

namespace Pass

variable {first first' pass pass' : Pass} {segment rest rest' : List Token} {stage : Stage}

/-- Both runs look at the next token of the segment, and get over it alike. -/
theorem Faces.exists_next (faces : first.Faces segment rest) (faces' : first'.Faces segment rest')
    (passes : (Simulation.abreast first first' segment).passes .inside pass pass') :
    ∃ token tail others others', pass.ahead = token :: others ∧ pass'.ahead = token :: others' ∧
      Segment (token :: tail) ∧ ∀ stage, Segment.LeftAt stage tail →
        (Simulation.abreast first first' segment).passes stage pass.advance pass'.advance := by
  obtain ⟨read, left, reports, rfl, isLeft, reads, reads'⟩ := passes
  obtain ⟨token, tail, rfl⟩ := Segment.exists_head isLeft
  have ahead := faces.ahead_of_reads reads
  have ahead' := faces'.ahead_of_reads reads'
  refine ⟨token, tail, _, _, ahead, ahead', isLeft, fun stage isTail => ?_⟩
  exact ⟨read ++ [token], tail, reports ++ [], by rw [List.append_assoc]; rfl, isTail,
    reads.trans (reads_advance ahead), reads'.trans (reads_advance ahead')⟩

/-- Both runs report the same. -/
theorem abreast_report (passes : (Simulation.abreast first first' segment).passes stage pass pass')
    (token : Token) (cause : Cause) :
    (Simulation.abreast first first' segment).passes stage (pass.report token cause)
      (pass'.report token cause) := by
  obtain ⟨read, left, reports, split, isLeft, reads, reads'⟩ := passes
  have more := reads.trans (reads_report pass token cause)
  have more' := reads'.trans (reads_report pass' token cause)
  rw [List.append_nil] at more more'
  exact ⟨read, left, _, split, isLeft, more, more'⟩

namespace Faces

variable (faces : first.Faces segment rest) (faces' : first'.Faces segment rest')

include faces faces'

theorem inStep_take? {kinds : List Kind} (noSemicolon : .mark .semicolon ∉ kinds) :
    (Simulation.abreast first first' segment).InStep .inside (Option.Rel Eq) .inside
      (Reading.take? kinds) (Reading.take? kinds) := by
  intro pass pass' passes
  obtain ⟨token, tail, _, _, ahead, ahead', isSegment, moves⟩ := faces.exists_next faces' passes
  by_cases asked : token.kind ∈ kinds
  · have other : token.kind ≠ .mark .semicolon := fun isSemicolon =>
      noSemicolon (isSemicolon ▸ asked)
    rw [Reading.take?_eq_some_ok_iff.mpr ⟨reads_advance ahead, asked⟩,
      Reading.take?_eq_some_ok_iff.mpr ⟨reads_advance ahead', asked⟩]
    exact .ok (.some rfl) (moves .inside (isSegment.tail other))
  · rw [Reading.take?_eq_none_ok_iff.mpr ⟨rfl, clear_of_ahead ahead asked⟩,
      Reading.take?_eq_none_ok_iff.mpr ⟨rfl, clear_of_ahead ahead' asked⟩]
    exact .ok .none passes

/-- A token of a kind is read by both runs, or both fail at another one. -/
theorem inStep_expect {kind : Kind} (message : String)
    (goesOn : ∀ {token tail}, Segment (token :: tail) → token.kind = kind →
      Segment.LeftAt stage tail) :
    (Simulation.abreast first first' segment).InStep .inside Eq stage (Reading.expect kind message)
      (Reading.expect kind message) := by
  intro pass pass' passes
  obtain ⟨token, tail, _, _, ahead, ahead', isSegment, moves⟩ := faces.exists_next faces' passes
  by_cases asked : token.kind = kind
  · rw [Reading.expect_eq_ok_iff.mpr ⟨reads_advance ahead, asked⟩,
      Reading.expect_eq_ok_iff.mpr ⟨reads_advance ahead', asked⟩]
    exact .ok rfl (moves stage (goesOn isSegment asked))
  · have noKind : token.kind ∉ [kind] := fun member => asked (List.mem_singleton.mp member)
    rw [Reading.expect_eq_error_iff.mpr ⟨clear_of_ahead ahead noKind, rfl, rfl⟩,
      Reading.expect_eq_error_iff.mpr ⟨clear_of_ahead ahead' noKind, rfl, rfl⟩,
      current_of_ahead ahead, current_of_ahead ahead']
    exact .error ⟨rfl, passes⟩

theorem inStep_primary :
    (Simulation.abreast first first' segment).InStep .inside (Expr.Alike Eq) .inside
      Reading.primary Reading.primary := by
  intro pass pass' passes
  obtain ⟨token, tail, _, _, ahead, ahead', isSegment, moves⟩ := faces.exists_next faces' passes
  unfold Reading.primary
  rw [current_of_ahead ahead, current_of_ahead ahead']
  cases isExpr : token.primary with
  | ok expr =>
    have inner := Reading.kind_mem_inner_of_primary isExpr
    have other : token.kind ≠ .mark .semicolon := by
      intro isSemicolon
      rw [isSemicolon] at inner
      exact absurd inner (by decide)
    exact .ok (.refl (fun _ => rfl) expr) (moves .inside (isSegment.tail other))
  | error cause => exact .error ⟨rfl, passes⟩

theorem inAssignments : (Simulation.abreast first first' segment).InAssignments where
  noExpression {pass pass'} passes := by
    obtain ⟨token, tail, _, _, ahead, ahead', -⟩ := faces.exists_next faces' passes
    rw [current_of_ahead ahead, current_of_ahead ahead']
    exact ⟨rfl, passes⟩
  check {pass pass'} passes kind _ := by
    obtain ⟨token, tail, _, _, ahead, ahead', -⟩ := faces.exists_next faces' passes
    rw [Bool.eq_iff_iff, check_eq_true_iff, check_eq_true_iff]
    simp [ahead, ahead']
  take? kinds member := by
    have noSemicolon : ∀ kinds ∈ Kind.choices, .mark .semicolon ∉ kinds := by decide
    exact faces.inStep_take? faces' (noSemicolon kinds member)
  item := id
  overlong {pass pass'} what passes := by
    obtain ⟨token, tail, _, _, ahead, ahead', -⟩ := faces.exists_next faces' passes
    rw [current_of_ahead ahead, current_of_ahead ahead']
    exact abreast_report passes token _
  primary := faces.inStep_primary faces'
  expect kind member message := by
    have notSemicolon : ∀ kind ∈ [Kind.identifier, .mark .emDash], kind ≠ .mark .semicolon := by
      decide
    refine faces.inStep_expect faces' message fun isSegment isKind => ?_
    exact isSegment.tail (isKind ▸ notSemicolon kind member)
  value := id
  badTarget passes tokens _ _ := tokens ▸ abreast_report passes _ _

/-- The semicolon of a segment is its last token, and behind it there is no `else`. There is no
colon in a segment. -/
theorem inStatements : (Simulation.abreast first first' segment).InStatements where
  toInExpressions := (faces.inAssignments faces').toInExpressions
  value := id
  expression := (faces.inAssignments faces').inStep_expression
  semicolon message := faces.inStep_expect faces' message fun isSegment isSemicolon =>
    isSegment.nil_of_semicolon isSemicolon
  colon message := faces.inStep_expect faces' message fun isSegment isColon =>
    isSegment.head_ne_colon isColon
  otherwise {pass pass'} passes := by
    obtain ⟨read, left, reports, rfl, rfl, reads, reads'⟩ := passes
    have clear {first pass : Pass} {rest : List Token} (faces : first.Faces (read ++ []) rest)
        (reads : first.Reads read reports pass) : pass.Clear [.word .else_] := by
      intro token head isElse
      rw [faces.ahead_of_reads reads] at head
      exact faces.noElse token head (List.mem_singleton.mp isElse)
    exact .inl ⟨Reading.take?_eq_none_ok_iff.mpr ⟨rfl, clear faces reads⟩,
      Reading.take?_eq_none_ok_iff.mpr ⟨rfl, clear faces' reads'⟩⟩

/-- Both runs choose the same rules, and a rule that is no expression begins with one of its
words. -/
theorem rules_eq (passes : (Simulation.abreast first first' segment).passes .inside pass pass') :
    pass.declarationRule = pass'.declarationRule ∧ pass.statementRule = pass'.statementRule := by
  obtain ⟨token, tail, _, _, ahead, ahead', -⟩ := faces.exists_next faces' passes
  obtain ⟨read, left, reports, -, -, reads, reads'⟩ := passes
  have standard := faces.standard.of_reads reads
  have standard' := faces'.standard.of_reads reads'
  have statements : pass.statementRule = pass'.statementRule := by
    rw [statementRule, statementRule, standard.statementRules, standard'.statementRules,
      current_of_ahead ahead, current_of_ahead ahead']
  rw [declarationRule, declarationRule, standard.declarationRules, standard'.declarationRules,
    current_of_ahead ahead, current_of_ahead ahead', statements]
  exact ⟨rfl, rfl⟩

/-- A rule is read alike, if it is not chosen for another token than those it begins with. -/
theorem outcomes_byRule {rule : Rule}
    (passes : (Simulation.abreast first first' segment).passes .inside pass pass')
    (heads : rule ≠ .expression →
      ∃ token rest, pass.ahead = token :: rest ∧ token.kind ∈ rule.heads) :
    (Simulation.abreast first first' segment).Outcomes (Stmt.Alike Eq Eq) .ended
      (Reading.byRule rule pass) (Reading.byRule rule pass') := by
  induction length : pass.left using Nat.strongRecOn generalizing rule pass pass' with
  | ind length inductionHypothesis =>
    subst length
    refine (faces.inStatements faces').outcomes_read ⟨passes, fun other => ?_,
      fun {middle middle'} shorter _ passes => ?_, fun _ _ passes => ?_⟩
    · obtain ⟨token, tail, _, _, ahead, ahead', isSegment, moves⟩ := faces.exists_next faces' passes
      obtain ⟨_, _, ahead'', head⟩ := heads other
      obtain ⟨rfl, -⟩ := List.cons.inj (ahead.symm.trans ahead'')
      have notBlock : rule ≠ .block := by
        rintro rfl
        exact isSegment.head_ne_colon (List.mem_singleton.mp head)
      have noSemicolon : .mark .semicolon ∉ rule.heads := by
        cases rule <;> decide
      have notSemicolon : token.kind ≠ .mark .semicolon := fun isSemicolon =>
        noSemicolon (isSemicolon ▸ head)
      rw [if_neg notBlock, Reading.advance_of_ahead ahead, Reading.advance_of_ahead ahead']
      exact .ok rfl (moves .inside (isSegment.tail notSemicolon))
    · rw [Reading.statement, Reading.statementBy, Reading.statementBy,
        ← (faces.rules_eq faces' passes).2]
      refine inductionHypothesis _ shorter passes (fun other => ?_) rfl
      obtain ⟨read, left, reports, -, -, reads, -⟩ := passes
      exact (exists_head_of_statementRule (faces.standard.of_reads reads) other).2.2
    · obtain ⟨_, _, _, _, isBody, _⟩ := passes
      exact isBody.elim

/-- A declaration is read without a look behind the next semicolon. -/
theorem outcomes_declaration :
    (Simulation.abreast first first' segment).Outcomes (Stmt.Alike Eq Eq) .ended
      (Reading.byRule first.declarationRule first)
      (Reading.byRule first'.declarationRule first') := by
  have passes : (Simulation.abreast first first' segment).passes .inside first first' :=
    ⟨[], segment, [], rfl, faces.segment, Reads.refl first, Reads.refl first'⟩
  rw [← (faces.rules_eq faces' passes).1]
  refine faces.outcomes_byRule faces' passes fun other => ?_
  rcases declarationRule_cases faces.standard with isStatement | ⟨-, head⟩
  · rw [isStatement] at other ⊢
    exact (exists_head_of_statementRule faces.standard other).2.2
  · exact head

end Faces

/-! ### Declarations -/

theorem skip_of_semicolon {pass : Pass} (isSemicolon : pass.previous.kind = .mark .semicolon) :
    pass.skip = pass := by
  rw [skip, if_pos isSemicolon, ite_self]

theorem skip_of_ahead {pass : Pass} {token : Token} {rest : List Token}
    (ahead : pass.ahead = token :: rest) (notSemicolon : pass.previous.kind ≠ .mark .semicolon)
    (notOpener : token.kind ∉ Kind.openers) : pass.skip = pass.advance.skip := by
  have notAtEnd : ¬ pass.atEnd := by
    rw [atEnd_eq_true_iff, ahead]
    exact List.cons_ne_nil token rest
  rw [skip, if_neg notAtEnd, if_neg notSemicolon, current_of_ahead ahead, if_neg notOpener]

/-- What is left of a segment is passed over up to its semicolon. -/
theorem reads_skip_of_segment {pass : Pass} {segment rest : List Token}
    (ahead : pass.ahead = segment ++ rest) (isSegment : Segment segment)
    (notSemicolon : pass.previous.kind ≠ .mark .semicolon)
    (noOpeners : ∀ token ∈ segment, token.kind ∉ Kind.openers) :
    pass.Reads segment [] pass.skip := by
  induction isSegment generalizing pass with
  | last isSemicolon =>
    have reads := reads_advance ahead
    rw [skip_of_ahead ahead notSemicolon (noOpeners _ List.mem_cons_self), skip_of_semicolon]
    · exact reads
    · rw [reads.previous_eq]
      exact isSemicolon
  | @more token tokens other _ _ inductionHypothesis =>
    obtain ⟨notOpener, noOpeners⟩ := List.forall_mem_cons.mp noOpeners
    have reads := reads_advance ahead
    have left : pass.advance.ahead = tokens ++ rest :=
      (List.cons.inj (reads.ahead.symm.trans ahead)).2
    rw [skip_of_ahead ahead notSemicolon notOpener]
    exact reads.trans (inductionHypothesis left (reads.previous_eq ▸ other) noOpeners)

/-- Synchronizing inside a segment reads the rest of it. -/
theorem reads_synchronize_of_segment {pass : Pass} {token : Token} {segment rest : List Token}
    (ahead : pass.ahead = token :: segment ++ rest) (isSegment : Segment (token :: segment))
    (noOpeners : ∀ token ∈ segment, token.kind ∉ Kind.openers) :
    pass.Reads (token :: segment) [] pass.synchronize := by
  have reads := reads_advance ahead
  have left : pass.advance.ahead = segment ++ rest :=
    (List.cons.inj (reads.ahead.symm.trans ahead)).2
  by_cases isSemicolon : token.kind = .mark .semicolon
  · rw [synchronize, skip_of_semicolon (reads.previous_eq ▸ isSemicolon),
      isSegment.nil_of_semicolon isSemicolon]
    exact reads
  · exact reads.trans (reads_skip_of_segment left (isSegment.tail isSemicolon)
      (reads.previous_eq ▸ isSemicolon) noOpeners)

/-- A declaration that fails inside a segment takes all of it. -/
theorem declaration_of_failed {pass next : Pass} {token : Token} {read tail rest : List Token}
    {reports : List Diagnostic} {fault : Fault}
    (noOpeners : ∀ other ∈ (read ++ token :: tail).tail, other.kind ∉ Kind.openers)
    (faces : pass.Faces (read ++ token :: tail) rest) (isSegment : Segment (token :: tail))
    (failed : Reading.byRule pass.declarationRule pass = .error fault next)
    (reads : pass.Reads read reports next) :
    ∃ last, pass.declaration = (.error token, last) ∧
      pass.Reads (read ++ token :: tail) (reports ++ [⟨token, fault⟩]) last := by
  have ahead := faces.ahead_of_reads reads
  have current : next.current = token := current_of_ahead ahead
  have noOpeners' : ∀ token ∈ tail, token.kind ∉ Kind.openers := by
    intro other member
    refine noOpeners other ?_
    cases read with
    | nil => exact member
    | cons _ read => exact List.mem_append_right read (List.mem_cons_of_mem token member)
  have reported := reads_reportFault next next.current fault
  have skips := reads_synchronize_of_segment (reported.ahead.symm.trans ahead) isSegment noOpeners'
  refine ⟨_, (recover_of_error failed).trans (by rw [current]), ?_⟩
  rw [current] at reported skips
  exact reads.trans (reported.trans skips)

/-- Two passes that have the same segment ahead make the same declaration of it. -/
theorem declaration_of_faces {pass pass' : Pass} {segment rest rest' : List Token}
    (noOpeners : ∀ token ∈ segment.tail, token.kind ∉ Kind.openers)
    (faces : pass.Faces segment rest) (faces' : pass'.Faces segment rest') :
    ∃ stmt reports next next', pass.declaration = (stmt, next) ∧ pass'.declaration = (stmt, next') ∧
      pass.Reads segment reports next ∧ pass'.Reads segment reports next' := by
  have outcomes := faces.outcomes_declaration faces'
  generalize outcome : Reading.byRule pass.declarationRule pass = result at outcomes
  generalize outcome' : Reading.byRule pass'.declarationRule pass' = result' at outcomes
  cases outcomes with
  | ok stmts passes =>
    obtain ⟨read, left, reports, rfl, rfl, reads, reads'⟩ := passes
    rw [List.append_nil]
    exact ⟨_, _, _, _, recover_of_ok outcome, stmts.eq ▸ recover_of_ok outcome', reads, reads'⟩
  | error faults =>
    obtain ⟨rfl, read, left, reports, rfl, isSegment, reads, reads'⟩ := faults
    obtain ⟨token, tail, rfl⟩ := isSegment.exists_head
    obtain ⟨last, made, whole⟩ := declaration_of_failed noOpeners faces isSegment outcome reads
    obtain ⟨last', made', whole'⟩ :=
      declaration_of_failed noOpeners faces' isSegment outcome' reads'
    exact ⟨_, _, _, _, made, made', whole, whole'⟩

/-- A segment is made into one declaration, the same wherever it stands. -/
theorem exists_declaration_of_segment {segment : List Token} (isSegment : Segment segment)
    (noEof : ∀ token ∈ segment, token.kind ≠ .eof)
    (noOpeners : ∀ token ∈ segment.tail, token.kind ∉ Kind.openers) :
    ∃ stmt reports, ∀ {pass next : Pass}, pass.Standard → pass.Reads segment reports next →
      next.Clear [.word .else_] → pass.declaration = (stmt, next) := by
  have sampleFaces : (start segment "").Faces segment [] :=
    ⟨(ahead_start_of_noEof noEof "").trans (List.append_nil segment).symm, isSegment,
      fun _ member => (by cases member), standard_start segment ""⟩
  obtain ⟨stmt, reports, last, -, sampleMade, -, sampleReads, -⟩ :=
    declaration_of_faces noOpeners sampleFaces sampleFaces
  refine ⟨stmt, reports, fun {pass next} standard reads clear => ?_⟩
  have faces : pass.Faces segment next.ahead :=
    ⟨reads.ahead, isSegment, fun token head isElse =>
      clear token head (List.mem_singleton.mpr isElse), standard⟩
  obtain ⟨stmt', reports', last', next', sampleMade', made, sampleReads', reads'⟩ :=
    declaration_of_faces noOpeners sampleFaces faces
  obtain ⟨rfl, rfl⟩ := Prod.mk.inj (sampleMade.symm.trans sampleMade')
  obtain rfl := sampleReads.reports_eq sampleReads'
  rw [made, reads'.unique reads]

end Pass

end Parlance
