/-
This file goes through all the lists that are read with a program, and finds all its reports of
lists that are too long. A function has a list of parameters, most other statements have the
argument lists of their expressions, and a statement with others inside has their lists too. As with
expressions, every rule is shown to read exactly these lists, whether it gives a statement or fails.
What is passed over after a failure has no list.
-/

import Parlance.Proofs.Arguments
import Parlance.Proofs.Unwinding

namespace Parlance

open Reading

/-! ### Where lists begin -/

/-- Reads the name of a function and the em-dash behind it. -/
def Reading.functionName : Reading Token := do
  let _ ← advance
  let name ← expect .identifier "Expect function name."
  let _ ← expect (.mark .emDash) "Expect '—' after function name."
  return name

mutual

/-- What a rule reads from a pass on has the list, as a part of its own or inside. -/
inductive RuleHas : Rule → Pass → Listing → Prop
  | parameters {pass name} {list : Listing} : functionName pass = .ok name list.begun →
      list.form = .parameters → RuleHas .function pass list
  | functionBody {pass head opened list} : functionHead pass = .ok head opened →
      RowHas Pass.endsBody opened list → RuleHas .function pass list
  | var {pass keyword middle name behind be last list} : advance pass = .ok keyword middle →
      expect .identifier "Expect variable name." middle = .ok name behind →
      take? [.word .be] behind = .ok (some be) last → HasArguments last list →
      RuleHas .var pass list
  | print {pass keyword middle list} : advance pass = .ok keyword middle →
      HasArguments middle list → RuleHas .print pass list
  | returns {pass keyword middle list} : advance pass = .ok keyword middle →
      middle.check (.mark .semicolon) = false → HasArguments middle list →
      RuleHas .returns pass list
  | expression {pass list} : HasArguments pass list → RuleHas .expression pass list
  | block {pass keyword opened list} : advance pass = .ok keyword opened →
      RowHas Pass.endsBody opened list → RuleHas .block pass list
  | whileDo {pass test middle list} : whileHead pass = .ok test middle →
      RuleHas middle.statementRule middle list → RuleHas .whileDo pass list
  | ifThen {pass test middle list} : ifHead pass = .ok test middle →
      RuleHas middle.statementRule middle list → RuleHas .ifElse pass list
  | ifElse {pass test middle body behind token last list} : ifHead pass = .ok test middle →
      statement middle = .ok body behind → take? [.word .else_] behind = .ok (some token) last →
      RuleHas last.statementRule last list → RuleHas .ifElse pass list

/-- One of the declarations that are read one after another until a condition is met has the
list. -/
inductive RowHas : (stop : Pass → Bool) → Pass → Listing → Prop
  | here {stop pass list} : stop pass = false → RuleHas pass.declarationRule pass list →
      RowHas stop pass list
  | later {stop pass list} : stop pass = false → RowHas stop pass.declaration.2 list →
      RowHas stop pass list

end

/-! ### The head of a function -/

namespace Reading

variable {pass : Pass} {has : Listing → Prop}

theorem functionHead_eq :
    functionHead = (do
      let name ← functionName
      let parameters ← parameters
      let _ ← expect (.mark .emDash) "Expect '—' after parameters."
      let _ ← expect (.mark .colon) "Expect ':' before function body."
      return (name, parameters)) := by
  simp only [functionHead, functionName, bind_assoc, pure_bind]

theorem silent_functionName : Silent functionName :=
  silent_advance.bind fun _ => (silent_expect _ _).bind fun _ =>
    (silent_expect _ _).bind fun _ => silent_pure _

theorem progress_functionName : Progress (fun _ => True) functionName :=
  forward_advance.bind_progress fun _ => (progress_expect trivial).bind fun _ =>
    (progress_expect trivial).toForward.bind fun _ => forward_pure _

theorem tallied_functionHead (pass : Pass) : Tallied functionHead pass fun list =>
    (∃ name, functionName pass = .ok name list.begun) ∧ list.form = .parameters := by
  rw [functionHead_eq]
  have silent := silent_functionName pass
  cases outcome : functionName pass with
  | error fault next =>
    rw [reached_of_error outcome] at silent
    refine ⟨[], reached_bind_of_error outcome ▸ silent, fun list => ?_⟩
    refine iff_of_false ?_ List.not_mem_nil
    rintro ⟨⟨_, ⟨⟩⟩, -⟩
  | ok name opened =>
    rw [reached_of_ok outcome] at silent
    obtain ⟨tokens, reports, reads, -⟩ := silent.reads
    have further := reads.cursor_lt (progress_functionName.consumes outcome)
    refine ⟨[⟨.parameters, opened⟩], ?_, fun list => ?_⟩
    · rw [reached_bind_of_ok outcome]
      exact tallies_bind_silent (silent.list further .parameters) fun _ =>
        (silent_expect _ _).bind fun _ => (silent_expect _ _).bind fun _ => silent_pure _
    · rw [List.mem_singleton]
      constructor
      · rintro ⟨⟨_, same⟩, form⟩
        cases same
        exact form ▸ rfl
      · rintro rfl
        exact ⟨⟨name, rfl⟩, rfl⟩

/-! ### Declarations one after another -/

/-- A declaration has the lists of its rule. When it fails, nothing more is read of it as a list. -/
theorem exists_tallies_declaration
    (tallied : Tallied (byRule pass.declarationRule) pass has) :
    ∃ lists, pass.Tallies lists pass.declaration.2 ∧ ∀ list, has list ↔ list ∈ lists := by
  obtain ⟨lists, tallies, isRead⟩ := tallied
  refine ⟨lists, ?_, isRead⟩
  cases outcome : byRule pass.declarationRule pass with
  | ok stmt next =>
    have same : pass.declaration = (stmt, next) := Pass.recover_of_ok outcome
    rw [reached_of_ok outcome] at tallies
    rwa [same]
  | error fault stopped =>
    have same : pass.declaration.2 = (stopped.reportFault stopped.current fault).synchronize :=
      congrArg Prod.snd (Pass.recover_of_error outcome)
    rw [reached_of_error outcome] at tallies
    obtain ⟨-, cause, fatal, isFault⟩ := (Rule.progress_byRule _).failed outcome
    obtain ⟨tokens, passedOver, -⟩ :=
      Pass.exists_reads_synchronize (stopped.reportFault stopped.current fault)
    have reads := (Pass.reads_reportFault stopped stopped.current fault).trans passedOver
    have isOther : Diagnostic.isOverlong ⟨stopped.current, fault⟩ = false := by
      rw [isFault]
      cases cause <;> first | rfl | cases fatal
    rw [same]
    exact List.append_nil lists ▸
      tallies.trans (.of_reads reads (List.forall_mem_singleton.mpr isOther))

theorem exists_tallies_of_runs {stop : Pass → Bool} {stmts : List Stmt} {next : Pass}
    (runs : Pass.Runs stop pass stmts next) (halts : Pass.Halts stop)
    (tallied : ∀ later, pass.Moves (fun _ => True) later → later.ahead ≠ [] →
      ∀ rule : Rule, Tallied (byRule rule) later (RuleHas rule later)) :
    ∃ lists, pass.Tallies lists next ∧ ∀ list, RowHas stop pass list ↔ list ∈ lists := by
  induction runs with
  | @stopped pass stops =>
    refine ⟨[], .refl pass, fun list => iff_of_false (fun has => ?_) List.not_mem_nil⟩
    cases has with
    | here goes => cases stops.symm.trans goes
    | later goes => cases stops.symm.trans goes
  | @declaration pass rest next goes runs inductionHypothesis =>
    obtain ⟨lists, tallies, isRead⟩ :=
      exists_tallies_declaration (tallied pass (.refl pass) (halts.ahead_ne_nil goes) _)
    obtain ⟨lists', tallies', isRead'⟩ := inductionHypothesis fun later moved =>
      tallied later ((Pass.moves_declaration pass).trans moved)
    refine ⟨lists ++ lists', tallies.trans tallies', fun list => ?_⟩
    rw [List.mem_append, ← isRead, ← isRead']
    constructor
    · intro has
      cases has with
      | here _ has => exact .inl has
      | later _ has => exact .inr has
    · rintro (has | has)
      · exact .here goes has
      · exact .later goes has

theorem tallied_block (tallied : ∀ later, pass.Moves (fun _ => True) later → later.ahead ≠ [] →
      ∀ rule : Rule, Tallied (byRule rule) later (RuleHas rule later)) :
    Tallied block pass (RowHas Pass.endsBody pass) := by
  obtain ⟨body, last, runs, same⟩ := Pass.exists_runs_block pass
  obtain ⟨lists, tallies, isRead⟩ := exists_tallies_of_runs runs Pass.halts_endsBody tallied
  have silent : Silent (do
      let _ ← expect (.mark .dot) "Expect '.' after block."
      return body : Reading (List Stmt)) :=
    (silent_expect _ _).bind fun _ => silent_pure _
  refine ⟨lists, ?_, isRead⟩
  rw [reached, same]
  exact List.append_nil lists ▸ tallies.trans (silent last)

/-! ### Rules -/

theorem silent_guard (opening closing : String) : Silent (guard opening closing) :=
  silent_advance.bind fun _ => (silent_expect _ _).bind fun _ => silent_primary.bind fun _ =>
    (silent_expect _ _).bind fun _ => silent_pure _

/-- A statement has the lists of its rule. -/
theorem Tallied.statement (tallied : Tallied (byRule pass.statementRule) pass has) :
    Tallied statement pass has :=
  tallied

section Inside

variable (inside : ∀ later : Pass, later.left < pass.left →
  ∀ rule : Rule, Tallied (byRule rule) later (RuleHas rule later))

include inside

theorem tallied_function :
    Tallied (Rule.function.read byRule Rule.progress_byRule) pass (RuleHas .function pass) := by
  have body : ∀ head middle, functionHead pass = .ok head middle →
      Tallied block middle (RowHas Pass.endsBody middle) := by
    intro head middle isHead
    have shorter := progress_functionHead.consumes isHead
    exact tallied_block fun later moved _ =>
      inside later (Nat.lt_of_le_of_lt moved.left_le shorter)
  refine ((tallied_functionHead pass).bind fun head middle isHead =>
    (body head middle isHead).bind_silent fun _ => silent_pure _).congr fun list => ?_
  constructor
  · intro has
    cases has with
    | parameters isName form => exact .inl ⟨⟨_, isName⟩, form⟩
    | functionBody isHead has => exact .inr ⟨_, _, isHead, has⟩
  · rintro (⟨⟨_, isName⟩, form⟩ | ⟨_, _, isHead, has⟩)
    · exact .parameters isName form
    · exact .functionBody isHead has

theorem tallied_body :
    Tallied (Rule.block.read byRule Rule.progress_byRule) pass (RuleHas .block pass) := by
  have body : ∀ keyword middle, advance pass = .ok keyword middle →
      Tallied block middle (RowHas Pass.endsBody middle) := by
    intro keyword middle advanced
    exact tallied_block fun later moved some =>
      inside later (left_lt_of_advance advanced some moved)
  refine (silent_advance.bind_tallied fun keyword middle advanced =>
    (body keyword middle advanced).bind_silent fun _ => silent_pure _).congr fun list => ?_
  constructor
  · intro has
    cases has with
    | block advanced has => exact ⟨_, _, advanced, has⟩
  · rintro ⟨_, _, advanced, has⟩
    exact .block advanced has

theorem tallied_whileDo :
    Tallied (Rule.whileDo.read byRule Rule.progress_byRule) pass (RuleHas .whileDo pass) := by
  have body : ∀ test middle, whileHead pass = .ok test middle →
      Tallied statement middle (RuleHas middle.statementRule middle) := by
    intro test middle isHead
    exact (inside middle ((progress_guard _ _).consumes isHead) _).statement
  refine ((silent_guard _ _).bind_tallied fun test middle isHead =>
    (body test middle isHead).bind_silent fun _ => silent_pure _).congr fun list => ?_
  constructor
  · intro has
    cases has with
    | whileDo isHead has => exact ⟨_, _, isHead, has⟩
  · rintro ⟨_, _, isHead, has⟩
    exact .whileDo isHead has

theorem tallied_ifElse :
    Tallied (Rule.ifElse.read byRule Rule.progress_byRule) pass (RuleHas .ifElse pass) := by
  have body : ∀ test middle, ifHead pass = .ok test middle →
      Tallied statement middle (RuleHas middle.statementRule middle) := by
    intro test middle isHead
    exact (inside middle ((progress_guard _ _).consumes isHead) _).statement
  have otherwise : ∀ test middle body behind token last, ifHead pass = .ok test middle →
      statement middle = .ok body behind → take? [.word .else_] behind = .ok (some token) last →
      Tallied statement last (RuleHas last.statementRule last) := by
    intro test middle body behind token last isHead isRead taken
    have toBody := (progress_guard _ _).consumes isHead
    have toElse := (forward_statement.done isRead).left_le
    have toOtherwise := left_lt_of_take? taken
    exact (inside last (by omega) _).statement
  refine Tallied.congr ((silent_guard _ _).bind_tallied fun test middle isHead =>
    (body test middle isHead).bind fun body behind isRead =>
    tallied_take? (silent_pure _) fun token last taken =>
    (otherwise test middle body behind token last isHead isRead taken).bind_silent fun _ =>
      silent_pure _) fun list => ?_
  constructor
  · intro has
    cases has with
    | ifThen isHead has => exact ⟨_, _, isHead, .inl has⟩
    | ifElse isHead isRead taken has =>
      exact ⟨_, _, isHead, .inr ⟨_, _, isRead, _, _, taken, has⟩⟩
  · rintro ⟨_, _, isHead, has | ⟨_, _, isRead, _, _, taken, has⟩⟩
    · exact .ifThen isHead has
    · exact .ifElse isHead isRead taken has

/-- A rule has its lists if all rules do where fewer tokens are left. -/
theorem tallied_read (rule : Rule) :
    Tallied (rule.read byRule Rule.progress_byRule) pass (RuleHas rule pass) := by
  cases rule with
  | function => exact tallied_function inside
  | ifElse => exact tallied_ifElse inside
  | whileDo => exact tallied_whileDo inside
  | block => exact tallied_body inside
  | var =>
    refine (silent_advance.bind_tallied fun _ middle _ =>
      (silent_expect _ _).bind_tallied fun _ behind _ =>
      (tallied_expressionAfter _ behind).bind_silent fun _ =>
        (silent_expect _ _).bind fun _ => silent_pure _).congr fun list => ?_
    constructor
    · intro has
      cases has with
      | var advanced isName taken has => exact ⟨_, _, advanced, _, _, isName, _, _, taken, has⟩
    · rintro ⟨_, _, advanced, _, _, isName, _, _, taken, has⟩
      exact .var advanced isName taken has
  | print =>
    refine (silent_advance.bind_tallied fun _ middle _ =>
      (tallied_expression middle).bind_silent fun _ =>
        (silent_expect _ _).bind fun _ => silent_pure _).congr fun list => ?_
    constructor
    · intro has
      cases has with
      | print advanced has => exact ⟨_, _, advanced, has⟩
    · rintro ⟨_, _, advanced, has⟩
      exact .print advanced has
  | returns =>
    refine (silent_advance.bind_tallied fun _ middle _ =>
      (tallied_expressionUnless _ middle).bind_silent fun _ =>
        (silent_expect _ _).bind fun _ => silent_pure _).congr fun list => ?_
    constructor
    · intro has
      cases has with
      | returns advanced check has => exact ⟨_, _, advanced, check, has⟩
    · rintro ⟨_, _, advanced, check, has⟩
      exact .returns advanced check has
  | expression =>
    refine ((tallied_expression pass).bind_silent fun _ =>
      (silent_expect _ _).bind fun _ => silent_pure _).congr fun list => ?_
    constructor
    · intro has
      cases has with
      | expression has => exact has
    · exact .expression

end Inside

theorem tallied_byRule (rule : Rule) (pass : Pass) :
    Tallied (byRule rule) pass (RuleHas rule pass) := by
  induction length : pass.left using Nat.strongRecOn generalizing pass rule with
  | ind length inductionHypothesis =>
    subst length
    rw [Rule.byRule_eq]
    exact tallied_read (fun later shorter rule => inductionHypothesis _ shorter rule later rfl) rule

end Reading

/-! ### Whole programs -/

/-- All reports of lists that are too long are those of the lists of the program, in the order in
which these begin. A list with more items than there may be has one, at the first item too many. A
list that breaks off behind the comma of the last item there may be has one too, at the token where
it breaks off, which is no item. No other list has any. -/
theorem Program.overlong_lists (tokens : List Token) (file : String) :
    let log := (ofTokens tokens file).log.reported
    ∃ lists : List Listing,
      (∀ list, list ∈ lists ↔ RowHas Pass.atEnd (Pass.start tokens file) list) ∧
      (lists.Pairwise fun earlier later => earlier.begun.cursor < later.begun.cursor) ∧
      log.filter Diagnostic.isOverlong = lists.flatMap Listing.reports ∧
      ∀ list ∈ lists, ∃ read items,
        list.begun.Reads read list.reports list.stopped ∧ Taken list.form.IsItem read items ∧
        (∀ item ∈ items, item.kind ∈ list.form.kinds) ∧
        (maxArity < items.length → ∃ item, items[maxArity]? = some item ∧
          list.reports = [list.form.overlong item]) ∧
        (read.length = 2 * maxArity → items.length = maxArity ∧
          ¬ list.form.IsItem list.stopped.current ∧
          list.reports = [list.form.overlong list.stopped.current]) ∧
        (items.length ≤ maxArity → read.length ≠ 2 * maxArity → list.reports = []) := by
  intro log
  obtain ⟨lists, tallies, isRead⟩ := exists_tallies_of_runs
    (Pass.runs_readUntil Pass.halts_atEnd (Pass.start tokens file)) Pass.halts_atEnd
    fun pass _ _ rule => tallied_byRule rule pass
  refine ⟨lists, fun list => (isRead list).symm, tallies.ordered, ?_, fun list _ => ?_⟩
  · obtain ⟨read, reports, reads, same⟩ := tallies.reads
    have isLog : log = reports := reads.log
    rw [isLog, same]
  · obtain ⟨read, items, reads, taken, described⟩ := list.reports_described
    exact ⟨read, items, reads, taken, fun item member => (taken.isItem_of_mem item member).kind_mem,
      described⟩

/-- The same parameter any number of times, and another one behind it. -/
theorem Grammar.separated_replicate {token comma last : Token} (isName : token.kind = .identifier)
    (isComma : comma.kind = .mark .comma) (isLast : last.kind = .identifier) (count : Nat) :
    Separated Parameter ((List.replicate count [token, comma]).flatten ++ [last])
      (List.replicate count token ++ [last]) (List.replicate count token ++ [last]) := by
  induction count with
  | zero => exact .one (.name isLast)
  | succ count inductionHypothesis => exact .more (.name isName) isComma inductionHypothesis

/-- A function with one parameter too many. -/
theorem Program.overlong_lists_function :
    let last := Token.ofName "last"
    let tokens := [.ofWord .to_, .ofName "f", .ofMark .emDash] ++
      (List.replicate maxArity [.ofName "p", .ofMark .comma]).flatten ++
      [last, .ofMark .emDash, .ofMark .colon, .ofMark .dot]
    ∃ list read items, RowHas Pass.atEnd (Pass.start tokens "f") list ∧
      Taken list.form.IsItem read items ∧ items[maxArity]? = some last ∧
      (ofTokens tokens "f").log.reported = [list.form.overlong last] := by
  intro last tokens
  let name := Token.ofName "p"
  have names : Grammar.Listed Grammar.Parameter
      ((List.replicate maxArity [name, .ofMark .comma]).flatten ++ [last])
      (List.replicate maxArity name ++ [last]) (List.replicate maxArity name ++ [last]) :=
    .some (Grammar.separated_replicate rfl rfl rfl maxArity)
  have derived : Grammar.Declarations .strict tokens
      [.function (.ofName "f") (List.replicate maxArity name ++ [last]) []]
      [.items "parameters" (List.replicate maxArity name ++ [last])] := by
    have whole : tokens = .ofWord .to_ :: .ofName "f" :: .ofMark .emDash ::
        ((List.replicate maxArity [name, .ofMark .comma]).flatten ++ [last] ++ .ofMark .emDash ::
          .ofMark .colon :: ([] ++ [.ofMark .dot])) ++ [] := by
      simp only [tokens, name, List.append_assoc, List.append_nil, List.cons_append,
        List.nil_append]
    rw [whole]
    exact .cons (.function rfl rfl rfl names rfl rfl .nil rfl) .nil
  have reads := readsDeclarations_of_derives id derived
  have noEof : ∀ token ∈ tokens, token.kind ≠ .eof := by decide +kernel
  have log : (ofTokens tokens "f").log.reported = [ListForm.parameters.overlong last] := by
    rw [ofTokens_of_reads (Pass.ahead_start_of_noEof noEof "f") reads]
    decide +kernel
  obtain ⟨lists, isRead, -, same, described⟩ := overlong_lists tokens "f"
  rw [log] at same
  have reported : ListForm.parameters.overlong last ∈ lists.flatMap Listing.reports :=
    same ▸ List.mem_singleton_self _
  obtain ⟨list, member, isReport⟩ := List.mem_flatMap.mp reported
  obtain ⟨read, items, -, taken, -, more, broken, none⟩ := described list member
  by_cases many : maxArity < items.length
  · obtain ⟨item, found, reports⟩ := more many
    rw [reports, List.mem_singleton] at isReport
    obtain rfl : last = item := congrArg Diagnostic.token isReport
    exact ⟨list, read, items, (isRead list).mp member, taken, found, by rw [log, isReport]⟩
  · -- The parameter is an item, so the list does not break off there.
    by_cases length : read.length = 2 * maxArity
    · obtain ⟨-, noItem, reports⟩ := broken length
      rw [reports, List.mem_singleton] at isReport
      have current : last = list.stopped.current := congrArg Diagnostic.token isReport
      have isItem : ∀ form : ListForm, form.IsItem last
        | .parameters => rfl
        | .arguments => ⟨_, rfl⟩
      exact absurd (current ▸ isItem list.form) noItem
    · rw [none (Nat.le_of_not_lt many) length] at isReport
      exact absurd isReport List.not_mem_nil

/-- A call with just as many arguments as there may be, and a comma behind the last one: the em-dash
that closes the list is reported as an argument too many, and it is none. -/
theorem Program.overlong_without_item :
    let tokens := [.ofName "f", .ofMark .emDash] ++
      (List.replicate maxArity [.ofName "a", .ofMark .comma]).flatten ++
      [.ofMark .emDash, .ofMark .semicolon]
    (tokens.filter (·.kind = .identifier)).length = 1 + maxArity ∧
    (ofTokens tokens "f").log.reported.map
        (fun report => (report.fault.cause.name, report.token.kind)) =
      [("ArityExceeded", .mark .emDash), ("UnexpectedPrimary", .mark .emDash)] := by
  decide +kernel

end Parlance
