/-
This file follows two passes whose tokens correspond one by one, in such a way that reading does not
tell them apart. Whatever else stands in the two streams, both passes get equally far, what is read
is alike, and the same is reported at corresponding tokens: such passes are in step wherever they
stand. Tokens correspond if they have the same kinds, and strings and numbers have the same values,
save that the words which print a value all count as one kind, and so do those which compare two;
and each token corresponds to itself.
-/

import Parlance.Proofs.Rules

namespace Parlance

open Reading

/-! ### Tokens that are read alike -/

/-- Two kinds that are the same, or two words that print, or two words that compare. -/
def Kind.Similar (kind kind' : Kind) : Prop :=
  kind = kind' ∨ (kind ∈ prints ∧ kind' ∈ prints) ∨ (kind ∈ equalities ∧ kind' ∈ equalities)

/-- Two tokens of similar kinds, which have the same value if they are strings or numbers. -/
structure Token.Similar (token token' : Token) : Prop where
  kind : token.kind.Similar token'.kind
  literal : token.kind = .string ∨ token.kind = .number →
    token.literal.isSome = true ∧ token.literal = token'.literal

instance (kind kind' : Kind) : Decidable (kind.Similar kind') :=
  inferInstanceAs (Decidable (_ ∨ _))

instance (token token' : Token) : Decidable (token.Similar token') :=
  decidable_of_iff (token.kind.Similar token'.kind ∧ (token.kind = .string ∨ token.kind = .number →
      token.literal.isSome = true ∧ token.literal = token'.literal))
    ⟨fun ⟨kind, literal⟩ => ⟨kind, literal⟩, fun ⟨kind, literal⟩ => ⟨kind, literal⟩⟩

/-- Similar strings and similar numbers have one value. -/
theorem Token.Similar.exists_literal {token token' : Token} (similar : token.Similar token')
    (hasValue : token.kind = .string ∨ token.kind = .number) :
    ∃ literal, token.literal = some literal ∧ token'.literal = some literal := by
  obtain ⟨present, shared⟩ := similar.literal hasValue
  obtain ⟨literal, own⟩ := Option.isSome_iff_exists.mp present
  exact ⟨literal, own, shared.symm.trans own⟩

/-- Kinds among which are all words that print or none, and all words that compare or none. -/
def Kind.KeepTogether (kinds : List Kind) : Prop :=
  ((∀ kind ∈ prints, kind ∈ kinds) ∨ ∀ kind ∈ prints, kind ∉ kinds) ∧
    ((∀ kind ∈ equalities, kind ∈ kinds) ∨ ∀ kind ∈ equalities, kind ∉ kinds)

instance (kinds : List Kind) : Decidable (Kind.KeepTogether kinds) :=
  inferInstanceAs (Decidable (_ ∧ _))

theorem Kind.Similar.mem_iff {kind kind' : Kind} {kinds : List Kind} (similar : kind.Similar kind')
    (together : KeepTogether kinds) : kind ∈ kinds ↔ kind' ∈ kinds := by
  have whole {family : List Kind} (member : kind ∈ family) (member' : kind' ∈ family)
      (allOrNone : (∀ kind ∈ family, kind ∈ kinds) ∨ ∀ kind ∈ family, kind ∉ kinds) :
      kind ∈ kinds ↔ kind' ∈ kinds := by
    rcases allOrNone with all | none
    · exact iff_of_true (all kind member) (all kind' member')
    · exact iff_of_false (none kind member) (none kind' member')
  rcases similar with rfl | ⟨isPrint, isPrint'⟩ | ⟨isEquality, isEquality'⟩
  · rfl
  · exact whole isPrint isPrint' together.1
  · exact whole isEquality isEquality' together.2

theorem Kind.Similar.eq_iff {kind kind' other : Kind} (similar : kind.Similar kind')
    (together : KeepTogether [other]) : kind = other ↔ kind' = other := by
  simpa only [List.mem_singleton] using similar.mem_iff together

/-- The tables do not tell similar kinds apart. -/
theorem RuleTable.eq_of_similar {kind kind' : Kind} (similar : kind.Similar kind') :
    declarations kind = declarations kind' ∧ statements kind = statements kind' := by
  rcases similar with rfl | ⟨member, member'⟩ | ⟨member, member'⟩
  · exact ⟨rfl, rfl⟩
  all_goals
    simp only [Kind.prints, Kind.equalities, List.mem_cons, List.not_mem_nil, or_false]
      at member member'
    rcases member with rfl | rfl | rfl <;> rcases member' with rfl | rfl | rfl <;> exact ⟨rfl, rfl⟩

/-- Two causes of the same name that tell the same. -/
def Cause.Alike (cause cause' : Cause) : Prop :=
  cause.name = cause'.name ∧ cause.message = cause'.message

/-- Two reports at corresponding tokens, with causes that are alike. -/
structure Diagnostic.Alike (same : Token → Token → Prop) (report report' : Diagnostic) : Prop where
  token : same report.token report'.token
  cause : report.fault.cause.Alike report'.fault.cause

/-- A way for the tokens of two passes to correspond, such that those which do are not told apart:
they have similar kinds, are expressions that are alike or none, and select the same rules. What is
found wrong at them are faults that correspond too. -/
structure Pairing where
  tokens : Token → Token → Prop
  faults : Fault → Fault → Prop
  tables : RuleTable → RuleTable → Prop
  kind : ∀ {token token'}, tokens token token' → token.kind.Similar token'.kind
  primary : ∀ {token token'}, tokens token token' →
    (∃ expr expr', token.primary = .ok expr ∧ token'.primary = .ok expr' ∧
        Expr.Alike tokens expr expr') ∨
      ∃ cause cause', token.primary = .error cause ∧ token'.primary = .error cause' ∧
        faults (token.fault cause) (token'.fault cause')
  rule : ∀ {table table' token token'}, tables table table' → tokens token token' →
    table token.kind = table' token'.kind
  missing : ∀ {token token'} message, tokens token token' →
    faults (token.fault (.missing token.value message))
      (token'.fault (.missing token'.value message))
  noExpression : ∀ {token token'}, tokens token token' →
    faults (token.fault (.noExpression token.value)) (token'.fault (.noExpression token'.value))
  minor : ∀ {token token'} cause, tokens token token' →
    faults (token.fault cause) (token'.fault cause)

/-! ### Similar tokens and equal ones -/

/-- Similar tokens are expressions that are alike, or neither is one, for the same reason. -/
theorem Token.Similar.primary_alike {same : Token → Token → Prop} {token token' : Token}
    (similar : token.Similar token') (tokens : same token token') :
    (∃ expr expr', token.primary = .ok expr ∧ token'.primary = .ok expr' ∧
        Expr.Alike same expr expr') ∨
      ∃ cause cause', token.primary = .error cause ∧ token'.primary = .error cause' ∧
        cause.Alike cause' := by
  unfold Token.primary
  rcases similar.kind with kinds | ⟨member, member'⟩ | ⟨member, member'⟩
  · cases isKind : token.kind with
    | eof => rw [← kinds, isKind]; exact .inr ⟨_, _, rfl, rfl, rfl, rfl⟩
    | identifier => rw [← kinds, isKind]; exact .inl ⟨_, _, rfl, rfl, .name tokens⟩
    | mark symbol => rw [← kinds, isKind]; exact .inr ⟨_, _, rfl, rfl, rfl, rfl⟩
    | number =>
      obtain ⟨literal, own, own'⟩ := similar.exists_literal (.inr isKind)
      rw [← kinds, isKind, own, own']
      exact .inl ⟨_, _, rfl, rfl, .literal literal⟩
    | string =>
      obtain ⟨literal, own, own'⟩ := similar.exists_literal (.inl isKind)
      rw [← kinds, isKind, own, own']
      exact .inl ⟨_, _, rfl, rfl, .literal literal⟩
    | word reserved =>
      rw [← kinds, isKind]
      cases reserved with
      | true_ => exact .inl ⟨_, _, rfl, rfl, .literal _⟩
      | false_ => exact .inl ⟨_, _, rfl, rfl, .literal _⟩
      | nothing => exact .inl ⟨_, _, rfl, rfl, .literal _⟩
      | _ => exact .inr ⟨_, _, rfl, rfl, rfl, rfl⟩
  all_goals
    simp only [Kind.prints, Kind.equalities, List.mem_cons, List.not_mem_nil, or_false]
      at member member'
    rcases member with kind | kind | kind <;> rcases member' with kind' | kind' | kind' <;>
      rw [kind, kind'] <;> exact .inr ⟨_, _, rfl, rfl, rfl, rfl⟩

/-- Similar tokens correspond, in some way among them, where the tables are those a pass starts
with. -/
def Pairing.ofSimilar (same : Token → Token → Prop)
    (similar : ∀ {token token'}, same token token' → token.Similar token') : Pairing where
  tokens := same
  faults fault fault' := fault.cause.Alike fault'.cause
  tables table table' := table = table' ∧ (table = .declarations ∨ table = .statements)
  kind tokens := (similar tokens).kind
  primary tokens := (similar tokens).primary_alike tokens
  rule := by
    rintro table _ token token' ⟨rfl, known⟩ tokens
    obtain ⟨declarations, statements⟩ := RuleTable.eq_of_similar (similar tokens).kind
    rcases known with rfl | rfl
    · exact declarations
    · exact statements
  missing _ _ := ⟨rfl, rfl⟩
  noExpression _ := ⟨rfl, rfl⟩
  minor _ _ := ⟨rfl, rfl⟩

/-- Each token corresponds to itself, and the tables can be any. -/
def Pairing.equal : Pairing where
  tokens := Eq
  faults := Eq
  tables := Eq
  kind := by
    rintro token _ rfl
    exact .inl rfl
  primary := by
    rintro token _ rfl
    cases outcome : token.primary with
    | ok expr => exact .inl ⟨expr, expr, rfl, rfl, .refl (fun _ => rfl) expr⟩
    | error cause => exact .inr ⟨cause, cause, rfl, rfl, rfl⟩
  rule := by
    rintro table _ token _ rfl rfl
    rfl
  missing := by
    rintro token _ message rfl
    rfl
  noExpression := by
    rintro token _ rfl
    rfl
  minor := by
    rintro token _ cause rfl
    rfl

/-- Corresponding tokens both have one of some kinds, or neither has. -/
def Pairing.Asks (pairing : Pairing) (kinds : List Kind) : Prop :=
  ∀ {token token'}, pairing.tokens token token' → (token.kind ∈ kinds ↔ token'.kind ∈ kinds)

theorem Pairing.asks_of_together {pairing : Pairing} {kinds : List Kind}
    (together : Kind.KeepTogether kinds) : pairing.Asks kinds :=
  fun tokens => (pairing.kind tokens).mem_iff together

theorem Pairing.equal_asks (kinds : List Kind) : equal.Asks kinds := by
  rintro token _ rfl
  exact Iff.rfl

/-! ### Passes that are alike -/

/-- Two passes with corresponding tokens behind them and ahead, which have reported the same. What
stands behind their end tokens does not matter. -/
structure Pass.Alike (pairing : Pairing) (pass pass' : Pass) : Prop where
  behind : List.Forall₂ pairing.tokens pass.behind pass'.behind
  ahead : List.Forall₂ pairing.tokens pass.ahead pass'.ahead
  final : pairing.tokens pass.final pass'.final
  log : List.Forall₂ (fun report report' => pairing.tokens report.token report'.token ∧
    pairing.faults report.fault report'.fault) pass.log.reported pass'.log.reported
  declarationRules : pairing.tables pass.declarationRules pass'.declarationRules
  statementRules : pairing.tables pass.statementRules pass'.statementRules

namespace Pass.Alike

variable {pairing : Pairing} {pass pass' next next' : Pass} {token token' : Token}

/-- Both passes are at their end, or both have a token ahead. -/
theorem ahead_cases (alike : pass.Alike pairing pass') :
    (pass.ahead = [] ∧ pass'.ahead = []) ∨
      ∃ token token' rest rest', pass.ahead = token :: rest ∧ pass'.ahead = token' :: rest' ∧
        pairing.tokens token token' := by
  have ahead := alike.ahead
  revert ahead
  cases pass.ahead with
  | nil =>
    intro ahead
    exact .inl ⟨rfl, List.forall₂_nil_left_iff.mp ahead⟩
  | cons token rest =>
    intro ahead
    obtain ⟨token', rest', same, -, isCons⟩ := List.forall₂_cons_left_iff.mp ahead
    exact .inr ⟨token, token', rest, rest', rfl, isCons, same⟩

theorem current (alike : pass.Alike pairing pass') :
    pairing.tokens pass.current pass'.current := by
  rcases alike.ahead_cases with ⟨ahead, ahead'⟩ | ⟨token, token', rest, rest', ahead, ahead', same⟩
  · rw [current_of_nil ahead, current_of_nil ahead']
    exact alike.final
  · rw [current_of_ahead ahead, current_of_ahead ahead']
    exact same

theorem previous (alike : pass.Alike pairing pass') :
    pairing.tokens pass.previous pass'.previous := by
  have behind := alike.behind
  rw [previous_eq, previous_eq]
  revert behind
  generalize pass.behind = tokens
  generalize pass'.behind = tokens'
  intro behind
  cases behind with
  | nil => exact alike.current
  | cons first _ => exact first

theorem rules_eq (alike : pass.Alike pairing pass') :
    pass.declarationRule = pass'.declarationRule ∧ pass.statementRule = pass'.statementRule := by
  have declarations := pairing.rule alike.declarationRules alike.current
  have statements := pairing.rule alike.statementRules alike.current
  rw [declarationRule, declarationRule, statementRule, statementRule, declarations, statements]
  exact ⟨rfl, rfl⟩

theorem check_eq (alike : pass.Alike pairing pass') {kind : Kind} (asks : pairing.Asks [kind]) :
    pass.check kind = pass'.check kind := by
  rw [Bool.eq_iff_iff, check_eq_true_iff, check_eq_true_iff]
  rcases alike.ahead_cases with ⟨ahead, ahead'⟩ | ⟨token, token', rest, rest', ahead, ahead', same⟩
  · simp [ahead, ahead']
  · have asked := asks same
    rw [List.mem_singleton, List.mem_singleton] at asked
    simp [ahead, ahead', asked]

theorem atEnd_eq (alike : pass.Alike pairing pass') : pass.atEnd = pass'.atEnd := by
  rw [Bool.eq_iff_iff, atEnd_eq_true_iff, atEnd_eq_true_iff]
  rcases alike.ahead_cases with ⟨ahead, ahead'⟩ | ⟨token, token', rest, rest', ahead, ahead', -⟩ <;>
    simp [ahead, ahead']

/-- Passes stay alike when corresponding tokens are read. -/
theorem of_reads (alike : pass.Alike pairing pass') (reads : pass.Reads [token] [] next)
    (reads' : pass'.Reads [token'] [] next') : next.Alike pairing next' := by
  have ahead := alike.ahead
  rw [reads.ahead, reads'.ahead, List.singleton_append, List.singleton_append,
    List.forall₂_cons] at ahead
  refine ⟨?_, ahead.2, ?_, ?_, ?_, ?_⟩
  · rw [reads.behind, reads'.behind]
    exact .cons ahead.1 alike.behind
  · rw [reads.final, reads'.final]
    exact alike.final
  · rw [reads.log, reads'.log, List.append_nil, List.append_nil]
    exact alike.log
  · rw [reads.declarationRules, reads'.declarationRules]
    exact alike.declarationRules
  · rw [reads.statementRules, reads'.statementRules]
    exact alike.statementRules

theorem advance (alike : pass.Alike pairing pass') : pass.advance.Alike pairing pass'.advance := by
  rcases alike.ahead_cases with ⟨ahead, ahead'⟩ | ⟨token, token', rest, rest', ahead, ahead', -⟩
  · rw [advance_of_nil ahead, advance_of_nil ahead']
    exact alike
  · exact alike.of_reads (reads_advance ahead) (reads_advance ahead')

theorem reportFault (alike : pass.Alike pairing pass') {fault fault' : Fault}
    (tokens : pairing.tokens token token') (faults : pairing.faults fault fault') :
    (pass.reportFault token fault).Alike pairing (pass'.reportFault token' fault') :=
  ⟨alike.behind, alike.ahead, alike.final, List.rel_append alike.log (.cons ⟨tokens, faults⟩ .nil),
    alike.declarationRules, alike.statementRules⟩

/-- The look behind at a semicolon and the look at the current token stop both passes, or none. -/
theorem skip (alike : pass.Alike pairing pass') : pass.skip.Alike pairing pass'.skip := by
  fun_induction Pass.skip pass generalizing pass' with
  | case1 pass ended =>
    rw [Pass.skip, if_pos (alike.atEnd_eq ▸ ended)]
    exact alike
  | case2 pass notEnded isSemicolon =>
    have isSemicolon' := ((pairing.kind alike.previous).eq_iff (by decide)).mp isSemicolon
    rw [Pass.skip, if_neg (alike.atEnd_eq ▸ notEnded), if_pos isSemicolon']
    exact alike
  | case3 pass notEnded notSemicolon isOpener =>
    have notSemicolon' := mt ((pairing.kind alike.previous).eq_iff (by decide)).mpr notSemicolon
    have isOpener' := ((pairing.kind alike.current).mem_iff (by decide)).mp isOpener
    rw [Pass.skip, if_neg (alike.atEnd_eq ▸ notEnded), if_neg notSemicolon', if_pos isOpener']
    exact alike
  | case4 pass notEnded notSemicolon notOpener inductionHypothesis =>
    have notSemicolon' := mt ((pairing.kind alike.previous).eq_iff (by decide)).mpr notSemicolon
    have notOpener' := mt ((pairing.kind alike.current).mem_iff (by decide)).mpr notOpener
    have goesOn : pass'.skip = pass'.advance.skip := by
      rw [Pass.skip, if_neg (alike.atEnd_eq ▸ notEnded), if_neg notSemicolon', if_neg notOpener']
    rw [goesOn]
    exact inductionHypothesis alike.advance

theorem synchronize (alike : pass.Alike pairing pass') :
    pass.synchronize.Alike pairing pass'.synchronize :=
  alike.advance.skip

end Pass.Alike

/-! ### Readings in step -/

namespace Pairing

variable (pairing : Pairing) {stage stage' : Stage}

/-- Passes that are alike wherever they stand. -/
def simulation : Simulation where
  tokens := pairing.tokens
  passes _ pass pass' := pass.Alike pairing pass'
  faults fault pass fault' pass' := pairing.faults fault fault' ∧ pass.Alike pairing pass'

variable {pairing}

/-- Both passes have a token ahead of one of some kinds, or neither has. -/
theorem take?_cases {pass pass' : Pass} {kinds : List Kind} (passes : pass.Alike pairing pass')
    (asks : pairing.Asks kinds) :
    (take? kinds pass = .ok none pass ∧ take? kinds pass' = .ok none pass') ∨
      ∃ token token', take? kinds pass = .ok (some token) pass.advance ∧
        take? kinds pass' = .ok (some token') pass'.advance ∧ pairing.tokens token token' := by
  rcases passes.ahead_cases with ⟨ahead, ahead'⟩ | ⟨token, token', rest, rest', ahead, ahead', same⟩
  · exact .inl ⟨take?_eq_none_ok_iff.mpr ⟨rfl, Pass.clear_of_nil ahead⟩,
      take?_eq_none_ok_iff.mpr ⟨rfl, Pass.clear_of_nil ahead'⟩⟩
  · have asked := asks same
    by_cases member : token.kind ∈ kinds
    · exact .inr ⟨token, token',
        take?_eq_some_ok_iff.mpr ⟨Pass.reads_advance ahead, member⟩,
        take?_eq_some_ok_iff.mpr ⟨Pass.reads_advance ahead', asked.mp member⟩, same⟩
    · have clear := Pass.clear_of_ahead ahead member
      have clear' := Pass.clear_of_ahead ahead' (mt asked.mpr member)
      exact .inl ⟨take?_eq_none_ok_iff.mpr ⟨rfl, clear⟩, take?_eq_none_ok_iff.mpr ⟨rfl, clear'⟩⟩

theorem inStep_take? {kinds : List Kind} (asks : pairing.Asks kinds) :
    pairing.simulation.InStep stage (Option.Rel pairing.tokens) stage' (take? kinds)
      (take? kinds) := by
  intro pass pass' (passes : pass.Alike pairing pass')
  rcases take?_cases passes asks with ⟨none, none'⟩ | ⟨token, token', taken, taken', same⟩
  · rw [none, none']
    exact .ok .none passes
  · rw [taken, taken']
    exact .ok (.some same) passes.advance

theorem inStep_expect {kind : Kind} (message : String) (asks : pairing.Asks [kind]) :
    pairing.simulation.InStep stage pairing.tokens stage' (expect kind message)
      (expect kind message) := by
  intro pass pass' (passes : pass.Alike pairing pass')
  unfold expect
  rw [passes.check_eq asks]
  split
  · exact .ok passes.advance.previous passes.advance
  · exact .error ⟨pairing.missing message passes.current, passes⟩

theorem inStep_advance :
    pairing.simulation.InStep stage pairing.tokens stage' Reading.advance Reading.advance :=
  fun pass pass' (passes : pass.Alike pairing pass') =>
    .ok passes.advance.previous passes.advance

theorem inStep_primary :
    pairing.simulation.InStep stage (Expr.Alike pairing.tokens) stage' Reading.primary
      Reading.primary := by
  intro pass pass' (passes : pass.Alike pairing pass')
  unfold Reading.primary
  rcases pairing.primary passes.current with
    ⟨expr, expr', isExpr, isExpr', exprs⟩ | ⟨cause, cause', noExpr, noExpr', faults⟩
  · rw [isExpr, isExpr']
    exact .ok exprs passes.advance
  · rw [noExpr, noExpr']
    exact .error ⟨faults, passes⟩

theorem inAssignments : pairing.simulation.InAssignments where
  noExpression passes := ⟨pairing.noExpression passes.current, passes⟩
  check passes kind member := by
    have together : ∀ kind ∈ [.mark .emDash, .mark .semicolon], Kind.KeepTogether [kind] := by
      decide
    exact passes.check_eq (asks_of_together (together kind member))
  take? kinds member := by
    have together : ∀ kinds ∈ Kind.choices, Kind.KeepTogether kinds := by decide
    exact inStep_take? (asks_of_together (together kinds member))
  item := id
  overlong what passes := passes.reportFault passes.current (pairing.minor _ passes.current)
  primary := inStep_primary
  expect kind member message := by
    have together : ∀ kind ∈ [.identifier, .mark .emDash], Kind.KeepTogether [kind] := by decide
    exact inStep_expect message (asks_of_together (together kind member))
  value := id
  badTarget passes tokens _ _ := passes.reportFault tokens (pairing.minor _ tokens)

/-- Passes that are alike keep in step through every part of a program. -/
theorem inPrograms : pairing.simulation.InPrograms where
  toInExpressions := inAssignments.toInExpressions
  value := id
  expression := inAssignments.inStep_expression
  semicolon message := inStep_expect message (asks_of_together (by decide))
  colon message := inStep_expect message (asks_of_together (by decide))
  otherwise {pass pass'} passes := by
    have asks : pairing.Asks [.word .else_] := asks_of_together (by decide)
    rcases take?_cases passes asks with none | ⟨token, token', taken, taken', -⟩
    · exact .inl none
    · exact .inr ⟨token, token', _, _, taken, taken', passes.advance⟩
  advance := inStep_advance
  opens := id
  begins := id
  goesOn := id
  rules passes := passes.rules_eq
  stops passes := by
    refine ⟨passes.atEnd_eq, ?_⟩
    rw [Pass.endsBody, Pass.endsBody, passes.check_eq (asks_of_together (by decide)),
      passes.atEnd_eq]
  dot message := inStep_expect message (asks_of_together (by decide))
  recovers faults :=
    ⟨faults.2.current, (faults.2.reportFault faults.2.current faults.1).synchronize⟩

end Pairing

/-! ### Beginning alike -/

namespace Pass

variable {pairing : Pairing} {tokens tokens' : List Token} {file file' : String}

theorem start_alike
    (tables : pairing.tables .declarations .declarations ∧ pairing.tables .statements .statements)
    (ahead : List.Forall₂ pairing.tokens (start tokens file).ahead (start tokens' file').ahead)
    (final : pairing.tokens (start tokens file).final (start tokens' file').final) :
    (start tokens file).Alike pairing (start tokens' file') where
  behind := .nil
  ahead := ahead
  final := final
  log := .nil
  declarationRules := tables.1
  statementRules := tables.2

theorem forall₂_upTo_eof (same : List.Forall₂ pairing.tokens tokens tokens') :
    List.Forall₂ pairing.tokens (tokens.takeWhile (·.kind ≠ .eof))
        (tokens'.takeWhile (·.kind ≠ .eof)) ∧
      Option.Rel pairing.tokens (tokens.find? (·.kind = .eof)) (tokens'.find? (·.kind = .eof)) := by
  induction same with
  | nil => exact ⟨.nil, .none⟩
  | @cons token token' rest rest' first _ inductionHypothesis =>
    have kinds : token.kind = .eof ↔ token'.kind = .eof := (pairing.kind first).eq_iff (by decide)
    by_cases isEof : token.kind = .eof
    · have isEof' := kinds.mp isEof
      simp only [List.takeWhile_cons, List.find?_cons, isEof, isEof', ne_eq, not_true_eq_false,
        decide_false, decide_true, Bool.false_eq_true, if_false]
      exact ⟨.nil, .some first⟩
    · have notEof' := mt kinds.mpr isEof
      simp only [List.takeWhile_cons, List.find?_cons, isEof, notEof', ne_eq, not_false_eq_true,
        decide_true, decide_false, if_true]
      exact ⟨.cons first inductionHypothesis.1, inductionHypothesis.2⟩

/-- Lists of corresponding tokens with an end token among them are begun alike. -/
theorem start_alike_of_forall₂
    (tables : pairing.tables .declarations .declarations ∧ pairing.tables .statements .statements)
    (same : List.Forall₂ pairing.tokens tokens tokens') (ends : ∃ token ∈ tokens, token.kind = .eof)
    (file file' : String) : (start tokens file).Alike pairing (start tokens' file') := by
  obtain ⟨ahead, found⟩ := forall₂_upTo_eof same
  have view := ahead_start tokens file
  have view' := ahead_start tokens' file'
  refine start_alike tables (view.1 ▸ view'.1 ▸ ahead) (view.2 ▸ view'.2 ▸ ?_)
  unfold Token.firstEof
  revert found
  cases first : tokens.find? (·.kind = .eof) with
  | none =>
    obtain ⟨token, member, isEof⟩ := ends
    exact absurd isEof (by simpa using List.find?_eq_none.mp first token member)
  | some eof =>
    generalize tokens'.find? (·.kind = .eof) = first'
    intro found
    cases found with
    | some same => exact same

end Pass

end Parlance
