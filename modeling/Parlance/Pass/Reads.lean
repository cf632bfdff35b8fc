/-
This file says how one pass gets to another. All that a reading does to a pass is to move tokens
from those ahead to those behind and to add diagnostics at the end of the log, so both passes and
what lies between them are described by one relation, `Pass.Reads`, between two passes, the tokens
that are read and the diagnostics that are reported. The relation composes and splits along its
tokens, it determines the later pass, and each primitive of a pass is described by it in full.
-/

import Parlance.Pass.View

namespace Parlance

namespace Pass

/-! ### From one pass to another -/

/-- A pass gets to `next` by reading `tokens` and reporting `reports`. -/
structure Reads (pass : Pass) (tokens : List Token) (reports : List Diagnostic) (next : Pass) :
    Prop where
  stream : next.stream = pass.stream
  cursor : next.cursor = pass.cursor + tokens.length
  ahead : pass.ahead = tokens ++ next.ahead
  log : next.log.reported = pass.log.reported ++ reports
  file : next.file = pass.file
  declarationRules : next.declarationRules = pass.declarationRules
  statementRules : next.statementRules = pass.statementRules

namespace Reads

variable {pass middle next next' : Pass} {tokens tokens' : List Token}
  {reports reports' : List Diagnostic}

theorem behind (reads : pass.Reads tokens reports next) :
    next.behind = tokens.reverse ++ pass.behind :=
  (view_of_cursor reads.stream reads.cursor reads.ahead).1

theorem final (reads : pass.Reads tokens reports next) : next.final = pass.final :=
  (view_of_cursor reads.stream reads.cursor reads.ahead).2.2

theorem refl (pass : Pass) : pass.Reads [] [] pass where
  stream := rfl
  cursor := rfl
  ahead := rfl
  log := (List.append_nil _).symm
  file := rfl
  declarationRules := rfl
  statementRules := rfl

theorem trans (first : pass.Reads tokens reports middle)
    (second : middle.Reads tokens' reports' next) :
    pass.Reads (tokens ++ tokens') (reports ++ reports') next where
  stream := second.stream.trans first.stream
  cursor := by rw [second.cursor, first.cursor, List.length_append, Nat.add_assoc]
  ahead := by rw [first.ahead, second.ahead, List.append_assoc]
  log := by rw [second.log, first.log, List.append_assoc]
  file := second.file.trans first.file
  declarationRules := second.declarationRules.trans first.declarationRules
  statementRules := second.statementRules.trans first.statementRules

/-- A pass over the same tokens whose cursor is further has read those between, if they were
ahead. -/
theorem of_cursor {rest : List Token} (stream : next.stream = pass.stream)
    (cursor : next.cursor = pass.cursor + tokens.length) (ahead : pass.ahead = tokens ++ rest)
    (log : next.log.reported = pass.log.reported ++ reports) (file : next.file = pass.file)
    (declarationRules : next.declarationRules = pass.declarationRules)
    (statementRules : next.statementRules = pass.statementRules) :
    pass.Reads tokens reports next ∧ next.ahead = rest := by
  have left := (view_of_cursor stream cursor ahead).2.1
  exact ⟨⟨stream, cursor, by rw [left, ahead], log, file, declarationRules, statementRules⟩, left⟩

/-- Any tokens that stand next ahead can be read, with any reports. -/
theorem exists_of_ahead {rest : List Token} (ahead : pass.ahead = tokens ++ rest)
    (reports : List Diagnostic) : ∃ next, pass.Reads tokens reports next ∧ next.ahead = rest := by
  have inside : pass.cursor + tokens.length < pass.stream.size := by
    have length := pass.length_ahead_lt
    rw [ahead, List.length_append, left] at length
    omega
  exact ⟨{ pass with
      cursor := pass.cursor + tokens.length
      inside
      log := ⟨pass.log.reported ++ reports⟩ }, of_cursor rfl rfl ahead rfl rfl rfl rfl⟩

/-- Tokens and reports determine the pass they lead to. -/
theorem unique (reads : pass.Reads tokens reports next) (reads' : pass.Reads tokens reports next') :
    next = next' :=
  Pass.ext (reads.stream.trans reads'.stream.symm) (reads.cursor.trans reads'.cursor.symm)
    (reads.file.trans reads'.file.symm) (Log.ext (reads.log.trans reads'.log.symm))
    (reads.declarationRules.trans reads'.declarationRules.symm)
    (reads.statementRules.trans reads'.statementRules.symm)

/-- The two passes determine what was read between them. -/
theorem tokens_eq (reads : pass.Reads tokens reports next)
    (reads' : pass.Reads tokens' reports' next) : tokens = tokens' :=
  List.append_cancel_right (reads.ahead.symm.trans reads'.ahead)

/-- The two passes determine what was reported between them. -/
theorem reports_eq (reads : pass.Reads tokens reports next)
    (reads' : pass.Reads tokens' reports' next) : reports = reports' :=
  List.append_cancel_left (reads.log.symm.trans reads'.log)

/-- What is read in two parts is read through a pass in the middle. -/
theorem split (reads : pass.Reads (tokens ++ tokens') (reports ++ reports') next) :
    ∃ middle, pass.Reads tokens reports middle ∧ middle.Reads tokens' reports' next := by
  have ahead : pass.ahead = tokens ++ (tokens' ++ next.ahead) := by
    rw [reads.ahead, List.append_assoc]
  obtain ⟨middle, first, middleAhead⟩ := exists_of_ahead ahead reports
  obtain ⟨last, second, -⟩ := exists_of_ahead middleAhead reports'
  exact ⟨middle, first, unique (first.trans second) reads ▸ second⟩

/-- The first tokens can be read with all reports still to come. -/
theorem split_left (reads : pass.Reads (tokens ++ tokens') reports next) :
    ∃ middle, pass.Reads tokens [] middle ∧ middle.Reads tokens' reports next :=
  split (reads : pass.Reads (tokens ++ tokens') ([] ++ reports) next)

/-- The first token is read before the others. -/
theorem uncons {token : Token} (reads : pass.Reads (token :: tokens) reports next) :
    ∃ middle, pass.Reads [token] [] middle ∧ middle.Reads tokens reports next :=
  split_left (reads : pass.Reads ([token] ++ tokens) reports next)

/-- The last token is read behind the others. -/
theorem unsnoc {token : Token} (reads : pass.Reads (tokens ++ [token]) reports next) :
    ∃ middle, pass.Reads tokens reports middle ∧ middle.Reads [token] [] next := by
  rw [← List.append_nil reports] at reads
  exact reads.split

theorem cast (reads : pass.Reads tokens reports next) (sameTokens : tokens = tokens')
    (sameReports : reports = reports') : pass.Reads tokens' reports' next :=
  sameTokens ▸ sameReports ▸ reads

theorem left_add_length (reads : pass.Reads tokens reports next) :
    next.left + tokens.length = pass.left := by
  have inside := next.inside
  rw [left, left, reads.stream, reads.cursor]
  rw [reads.stream, reads.cursor] at inside
  omega

theorem left_le (reads : pass.Reads tokens reports next) : next.left ≤ pass.left := by
  rw [← reads.left_add_length]
  exact Nat.le_add_right _ _

theorem left_lt (reads : pass.Reads tokens reports next) (some : tokens ≠ []) :
    next.left < pass.left := by
  have positive := List.length_pos_iff.mpr some
  have length := reads.left_add_length
  omega

/-- Without a token read, the current token stays. -/
theorem current_eq_of_nil (reads : pass.Reads [] reports next) : pass.current = next.current := by
  have stream := reads.stream
  have cursor : next.cursor = pass.cursor := reads.cursor
  simp only [current, stream, cursor]

end Reads

/-! ### The primitives -/

/-- The next token ahead, if there is one, has none of some kinds. -/
def Clear (kinds : List Kind) (pass : Pass) : Prop :=
  ∀ token ∈ pass.ahead.head?, token.kind ∉ kinds

theorem Clear.mono {kinds kinds' : List Kind} {pass : Pass} (clear : pass.Clear kinds)
    (subset : kinds' ⊆ kinds) : pass.Clear kinds' :=
  fun token member inKinds => clear token member (subset inKinds)

theorem clear_of_ahead {kinds : List Kind} {pass : Pass} {token : Token} {rest : List Token}
    (ahead : pass.ahead = token :: rest) (other : token.kind ∉ kinds) : pass.Clear kinds := by
  intro head member
  rw [ahead, List.head?_cons, Option.mem_some_iff] at member
  exact member ▸ other

theorem clear_of_nil {kinds : List Kind} {pass : Pass} (ahead : pass.ahead = []) :
    pass.Clear kinds := by
  intro head member
  rw [ahead] at member
  cases member

/-- No token of a kind is next ahead. -/
theorem clear_singleton_iff {kind : Kind} {pass : Pass} :
    pass.Clear [kind] ↔ pass.check kind = false := by
  rw [← Bool.not_eq_true, check_eq_true_iff]
  constructor
  · rintro clear ⟨token, rest, ahead, isKind⟩
    exact clear token (by rw [ahead]; rfl) (List.mem_singleton.mpr isKind)
  · intro none token head isKind
    obtain ⟨rest, ahead⟩ := List.head?_eq_some_iff.mp (Option.mem_def.mp head)
    exact none ⟨token, rest, ahead, List.mem_singleton.mp isKind⟩

/-- Without a token read, what is next ahead stays. -/
theorem Reads.clear_of_nil {kinds : List Kind} {pass next : Pass} {reports : List Diagnostic}
    (reads : pass.Reads [] reports next) (clear : next.Clear kinds) : pass.Clear kinds := by
  unfold Clear
  rw [reads.ahead]
  exact clear

theorem reads_advance {pass : Pass} {token : Token} {rest : List Token}
    (ahead : pass.ahead = token :: rest) : pass.Reads [token] [] pass.advance := by
  obtain ⟨inside, advanced⟩ := advance_eq ahead
  have split : pass.ahead = [token] ++ rest := ahead
  refine (Reads.of_cursor ?_ ?_ split ?_ ?_ ?_ ?_).1 <;> rw [advanced]
  · rfl
  · exact (List.append_nil _).symm

/-- The token that is read becomes the previous one. -/
theorem Reads.previous_eq {pass next : Pass} {token : Token} (reads : pass.Reads [token] [] next) :
    next.previous = token := by
  rw [Pass.previous_eq, reads.behind]
  rfl

/-- A pass that reads one token without a report advances. -/
theorem Reads.eq_advance {pass next : Pass} {token : Token} (reads : pass.Reads [token] [] next) :
    next = pass.advance :=
  reads.unique (reads_advance reads.ahead)

theorem reads_reportFault (pass : Pass) (token : Token) (fault : Fault) :
    pass.Reads [] [⟨token, fault⟩] (pass.reportFault token fault) :=
  ⟨rfl, rfl, rfl, rfl, rfl, rfl, rfl⟩

theorem reads_report (pass : Pass) (token : Token) (cause : Cause) :
    pass.Reads [] [⟨token, token.fault cause⟩] (pass.report token cause) :=
  reads_reportFault pass token (token.fault cause)

theorem any_check_iff {pass : Pass} {kinds : List Kind} :
    kinds.any pass.check = true ↔
      ∃ token rest, pass.ahead = token :: rest ∧ token.kind ∈ kinds := by
  rw [List.any_eq_true]
  constructor
  · rintro ⟨kind, asked, found⟩
    obtain ⟨token, rest, ahead, rfl⟩ := check_eq_true_iff.mp found
    exact ⟨token, rest, ahead, asked⟩
  · rintro ⟨token, rest, ahead, asked⟩
    exact ⟨token.kind, asked, check_eq_true_iff.mpr ⟨token, rest, ahead, rfl⟩⟩

theorem take?_eq_some_iff {pass next : Pass} {kinds : List Kind} {token : Token} :
    pass.take? kinds = some (token, next) ↔ pass.Reads [token] [] next ∧ token.kind ∈ kinds := by
  constructor
  · intro taken
    unfold take? at taken
    split at taken
    · rename_i found
      obtain ⟨head, rest, ahead, asked⟩ := any_check_iff.mp found
      have reads := reads_advance ahead
      cases taken
      rw [reads.previous_eq]
      exact ⟨reads, asked⟩
    · cases taken
  · rintro ⟨reads, asked⟩
    have found : kinds.any pass.check = true := any_check_iff.mpr ⟨_, _, reads.ahead, asked⟩
    rw [take?, if_pos found, ← reads.eq_advance, reads.previous_eq]

theorem take?_eq_none_iff {pass : Pass} {kinds : List Kind} :
    pass.take? kinds = none ↔ pass.Clear kinds := by
  rw [← Option.not_isSome_iff_eq_none, Option.isSome_iff_exists]
  constructor
  · intro none token head asked
    obtain ⟨rest, ahead⟩ := List.head?_eq_some_iff.mp (Option.mem_def.mp head)
    exact none ⟨_, take?_eq_some_iff.mpr ⟨reads_advance ahead, asked⟩⟩
  · rintro clear ⟨⟨token, next⟩, taken⟩
    obtain ⟨reads, asked⟩ := take?_eq_some_iff.mp taken
    exact clear token (by rw [reads.ahead]; rfl) asked

end Pass

/-! ### Readings one after another -/

namespace Reading

variable {α β : Type} {reading : Reading α} {continuation : α → Reading β} {pass next middle : Pass}
  {value : α} {fault : Fault}

theorem bind_of_ok (done : reading pass = .ok value middle) :
    (reading >>= continuation) pass = continuation value middle := by
  show EStateM.bind reading continuation pass = _
  rw [EStateM.bind, done]

theorem bind_of_error (failed : reading pass = .error fault next) :
    (reading >>= continuation) pass = .error fault next := by
  show EStateM.bind reading continuation pass = _
  rw [EStateM.bind, failed]

theorem bind_eq_ok {result : β} (done : (reading >>= continuation) pass = .ok result next) :
    ∃ value middle, reading pass = .ok value middle ∧
      continuation value middle = .ok result next := by
  cases outcome : reading pass with
  | ok value middle =>
    rw [bind_of_ok outcome] at done
    exact ⟨value, middle, rfl, done⟩
  | error fault middle =>
    rw [bind_of_error outcome] at done
    cases done

theorem bind_eq_error (failed : (reading >>= continuation) pass = .error fault next) :
    reading pass = .error fault next ∨
      ∃ value middle, reading pass = .ok value middle ∧
        continuation value middle = .error fault next := by
  cases outcome : reading pass with
  | ok value middle =>
    rw [bind_of_ok outcome] at failed
    exact .inr ⟨value, middle, rfl, failed⟩
  | error fault' middle =>
    rw [bind_of_error outcome] at failed
    cases failed
    exact .inl rfl

/-- Two continuations that agree on the outcome of a reading give the same. -/
theorem bind_congr {continuation' : α → Reading β}
    (agree : ∀ value middle, reading pass = .ok value middle →
      continuation value middle = continuation' value middle) :
    (reading >>= continuation) pass = (reading >>= continuation') pass := by
  cases outcome : reading pass with
  | ok value middle => rw [bind_of_ok outcome, bind_of_ok outcome, agree value middle outcome]
  | error fault middle => rw [bind_of_error outcome, bind_of_error outcome]

theorem bind_congr_left {reading' : Reading α} (same : reading pass = reading' pass) :
    (reading >>= continuation) pass = (reading' >>= continuation) pass := by
  cases outcome : reading pass with
  | ok value middle => rw [bind_of_ok outcome, bind_of_ok (same.symm.trans outcome)]
  | error fault middle => rw [bind_of_error outcome, bind_of_error (same.symm.trans outcome)]

theorem pure_apply (value : α) (pass : Pass) : (pure value : Reading α) pass = .ok value pass := rfl

theorem pure_eq_ok {value' : α} (done : (pure value : Reading α) pass = .ok value' next) :
    value = value' ∧ pass = next := by
  rw [pure_apply] at done
  cases done
  exact ⟨rfl, rfl⟩

theorem modifyGet_eq_ok {step : Pass → α × Pass}
    (done : (modifyGet step : Reading α) pass = .ok value next) :
    value = (step pass).1 ∧ next = (step pass).2 := by
  have outcome : (modifyGet step : Reading α) pass = .ok (step pass).1 (step pass).2 := rfl
  rw [outcome] at done
  cases done
  exact ⟨rfl, rfl⟩

/-! ### The primitive readings -/

variable {kinds : List Kind} {token : Token} {found : Option Token} {kind : Kind} {message : String}

theorem take?_eq_some_ok_iff :
    take? kinds pass = .ok (some token) next ↔ pass.Reads [token] [] next ∧ token.kind ∈ kinds := by
  rw [take?, ← Pass.take?_eq_some_iff]
  cases taken : pass.take? kinds with
  | none => simp
  | some pair => simp [Prod.ext_iff]

theorem take?_eq_none_ok_iff :
    take? kinds pass = .ok none next ↔ next = pass ∧ pass.Clear kinds := by
  rw [take?, ← Pass.take?_eq_none_iff]
  cases taken : pass.take? kinds with
  | none => simp [eq_comm]
  | some pair => simp

theorem take?_ne_error : take? kinds pass ≠ .error fault next := by
  rw [take?]
  split <;> simp

theorem expect_eq_ok_iff :
    expect kind message pass = .ok token next ↔ pass.Reads [token] [] next ∧ token.kind = kind := by
  rw [expect]
  constructor
  · intro done
    split at done
    · rename_i found
      obtain ⟨head, rest, ahead, isKind⟩ := Pass.check_eq_true_iff.mp found
      have reads := Pass.reads_advance ahead
      cases done
      rw [reads.previous_eq]
      exact ⟨reads, isKind⟩
    · cases done
  · rintro ⟨reads, isKind⟩
    have found : pass.check kind = true := Pass.check_eq_true_iff.mpr ⟨_, _, reads.ahead, isKind⟩
    rw [if_pos found, ← reads.eq_advance, reads.previous_eq]

theorem expect_eq_error_iff :
    expect kind message pass = .error fault next ↔
      pass.Clear [kind] ∧ next = pass ∧
        fault = pass.current.fault (.missing pass.current.value message) := by
  rw [Pass.clear_singleton_iff, expect]
  cases found : pass.check kind with
  | false => simp [fail, eq_comm, and_comm]
  | true => simp

theorem advance_of_reads (reads : pass.Reads [token] [] next) :
    advance pass = .ok token next := by
  rw [advance, ← reads.eq_advance, reads.previous_eq]

theorem advance_of_ahead {rest : List Token} (ahead : pass.ahead = token :: rest) :
    advance pass = .ok token pass.advance :=
  advance_of_reads (Pass.reads_advance ahead)

theorem reads_of_advance {token' : Token} {rest : List Token} (ahead : pass.ahead = token :: rest)
    (done : advance pass = .ok token' next) : token' = token ∧ pass.Reads [token] [] next := by
  rw [advance_of_ahead ahead] at done
  cases done
  exact ⟨rfl, Pass.reads_advance ahead⟩

theorem advance_of_nil (ahead : pass.ahead = []) :
    advance pass = .ok pass.previous pass := by
  rw [advance, Pass.advance_of_nil ahead]

end Reading

end Parlance
