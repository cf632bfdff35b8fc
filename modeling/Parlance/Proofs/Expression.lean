/-
This file proves that expressions are read by the grammar. In one direction, whatever a reading
takes for an expression has a derivation from exactly the tokens that were read, and what was
reported meanwhile is what the derivation takes note of. In the other direction, tokens that have a
derivation are read as the expression they derive, provided that the token behind them does not go
on with it.
-/

import Parlance.Proofs.Grammar
import Parlance.Pass.Statement

namespace Parlance

open Grammar

/-- A token is read as an expression exactly if it denotes the expression. -/
theorem Token.primary_eq_ok_iff {token : Token} {expr : Expr} :
    token.primary = .ok expr ↔ Denotes token expr := by
  constructor
  · intro isExpr
    unfold Token.primary at isExpr
    split at isExpr
    case h_1 kind => cases isExpr; exact .no kind
    case h_2 kind => cases isExpr; exact .yes kind
    case h_3 kind => cases isExpr; exact .nothing kind
    case h_4 kind =>
      cases isExpr
      cases literal : token.literal with
      | none => exact .text kind literal
      | some value => exact .own (.inl kind) literal
    case h_5 kind =>
      split at isExpr
      case h_1 literal own => cases isExpr; exact .own (.inr kind) own
      case h_2 own =>
        split at isExpr
        case h_1 number value => cases isExpr; exact .numeral kind own value
        case h_2 => cases isExpr
    case h_6 kind => cases isExpr; exact .name kind
    case h_7 => cases isExpr
  · intro denotes
    cases denotes with
    | no kind => rw [Token.primary, kind]
    | yes kind => rw [Token.primary, kind]
    | nothing kind => rw [Token.primary, kind]
    | own kind own =>
      rcases kind with kind | kind <;> simp only [Token.primary, kind, own, Option.getD]
    | text kind own => simp only [Token.primary, kind, own, Option.getD]
    | numeral kind own value => simp only [Token.primary, kind, own, value]
    | name kind => rw [Token.primary, kind]

namespace Reading

/-! ### Items -/

/-- A reading of single tokens by what they denote. -/
def Single {α : Type} (denotes : Token → α → Prop) (item : Reading α) : Prop :=
  ∀ {pass value next}, item pass = .ok value next ↔
    ∃ token, pass.Reads [token] [] next ∧ denotes token value

theorem single_primary : Single Denotes primary := by
  intro pass expr next
  simp only [primary_eq_ok_iff, Token.primary_eq_ok_iff]

theorem single_parameter {message : String} : Single Parameter (expect .identifier message) := by
  intro pass name next
  rw [expect_eq_ok_iff]
  constructor
  · rintro ⟨reads, kind⟩
    exact ⟨name, reads, .name kind⟩
  · rintro ⟨token, reads, ⟨kind⟩⟩
    exact ⟨reads, kind⟩

/-- The report that an item is the first one too many, if it is. -/
def surplus (what : String) (count : Nat) (item : Token) : List Diagnostic :=
  if count = maxArity then [⟨item, item.fault (.tooMany what maxArity)⟩] else []

/-- The reports about items of which the first is the one behind `count` others. -/
def surplusFrom (what : String) : (count : Nat) → (items : List Token) → List Diagnostic
  | _, [] => []
  | count, item :: items => surplus what count item ++ surplusFrom what (count + 1) items

theorem surplusFrom_of_lt {what : String} {count : Nat} (past : maxArity < count)
    (items : List Token) : surplusFrom what count items = [] := by
  induction items generalizing count with
  | nil => rfl
  | cons item items inductionHypothesis =>
    rw [surplusFrom, surplus, if_neg (Nat.ne_of_gt past),
      inductionHypothesis (Nat.lt_succ_of_lt past), List.append_nil]

/-- The one item that is reported is the first one too many. -/
theorem surplusFrom_eq {what : String} {count left : Nat} (sum : count + left = maxArity)
    (items : List Token) :
    surplusFrom what count items =
      (items[left]?.map fun token =>
        (⟨token, token.fault (.tooMany what maxArity)⟩ : Diagnostic)).toList := by
  induction items generalizing count left with
  | nil => rfl
  | cons item items inductionHypothesis =>
    cases left with
    | zero =>
      have full : count = maxArity := sum
      rw [surplusFrom, surplus, if_pos full, surplusFrom_of_lt (by omega)]
      rfl
    | succ left =>
      have sum' : count + 1 + left = maxArity := by omega
      rw [surplusFrom, surplus, if_neg (by omega), inductionHypothesis sum']
      rfl

theorem surplusFrom_zero (what : String) (items : List Token) :
    surplusFrom what 0 items = reports [.items what items] := by
  rw [reports_singleton]
  exact surplusFrom_eq (Nat.zero_add maxArity) items

theorem noteArity_eq_ok_iff {what : String} {count : Nat} {pass next : Pass} {value : Unit} :
    noteArity what count pass = .ok value next ↔
      pass.Reads [] (surplus what count pass.current) next := by
  unfold noteArity surplus
  split
  · constructor
    · intro done
      cases done
      exact Pass.reads_report pass pass.current _
    · intro reads
      rw [reads.unique (Pass.reads_report pass pass.current _)]
  · constructor
    · intro done
      cases done
      exact Pass.Reads.refl pass
    · intro reads
      rw [reads.unique (Pass.Reads.refl pass)]

/-- What is reported before a token is read is reported of this token. -/
theorem reads_of_noteArity {what : String} {count : Nat} {pass middle next : Pass} {token : Token}
    (noted : noteArity what count pass = .ok () middle) (reads : middle.Reads [token] [] next) :
    pass.Reads [token] (surplus what count token) next := by
  have reported := noteArity_eq_ok_iff.mp noted
  have current : pass.current = token :=
    reported.current_eq_of_nil.trans (Pass.current_of_ahead reads.ahead)
  exact (current ▸ reported.trans reads).cast rfl (List.append_nil _)

/-! ### What is read has a derivation -/

/-- A reading whose values are derived from the tokens it reads, with reports as noted. -/
def Derives {α : Type} (relation : List Token → α → List Note → Prop) (reading : Reading α) :
    Prop :=
  ∀ {pass value next}, reading pass = .ok value next →
    ∃ tokens notes, relation tokens value notes ∧ pass.Reads tokens (reports notes) next

section Items

variable {α : Type} {denotes : Token → α → Prop} {item : Reading α} {what : String}
  {forward : item.Forward (· ∈ Kind.inner)}

/-- One item is read with the report that it is the first one too many, if it is. -/
theorem reads_item (single : Single denotes item) {count : Nat} {pass middle next : Pass}
    {value : α} (noted : noteArity what count pass = .ok () middle)
    (done : item middle = .ok value next) :
    ∃ token, denotes token value ∧ pass.Reads [token] (surplus what count token) next := by
  obtain ⟨token, reads, isItem⟩ := single.mp done
  exact ⟨token, isItem, reads_of_noteArity noted reads⟩

theorem separated_of_items (single : Single denotes item) {count : Nat} {pass next : Pass}
    {values : List α} (done : items what item forward count pass = .ok values next) :
    ∃ tokens list, Separated denotes tokens list values ∧
      pass.Reads tokens (surplusFrom what count list) next := by
  refine (Recursion.items what item forward).value_induction
    (motive := fun count pass values next => ∃ tokens list,
      Separated denotes tokens list values ∧ pass.Reads tokens (surplusFrom what count list) next)
    ?_ done
  intro again _ inductionHypothesis count pass values next done
  obtain ⟨⟨⟩, middle, noted, afterNote⟩ := bind_eq_ok done
  obtain ⟨value, last, itemDone, afterItem⟩ := bind_eq_ok afterNote
  obtain ⟨token, isItem, reads⟩ := reads_item single noted itemDone
  obtain ⟨comma, behind, taken, afterComma⟩ := bind_eq_ok afterItem
  cases comma with
  | none =>
    obtain ⟨rfl, -⟩ := take?_eq_none_ok_iff.mp taken
    obtain ⟨rfl, rfl⟩ := pure_eq_ok afterComma
    exact ⟨[token], [token], .one isItem, reads.cast rfl (List.append_nil _).symm⟩
  | some comma =>
    obtain ⟨commaReads, isComma⟩ := take?_eq_some_ok_iff.mp taken
    obtain ⟨values', last', restDone, finished⟩ := bind_eq_ok afterComma
    obtain ⟨rfl, rfl⟩ := pure_eq_ok finished
    obtain ⟨tokens, list, separated, reads'⟩ := inductionHypothesis restDone
    exact ⟨token :: comma :: tokens, token :: list,
      .more isItem (List.mem_singleton.mp isComma) separated,
      reads.trans (commaReads.trans reads')⟩

/-- A list is read with the report that it is too long, if it is. -/
theorem listed_of_listed (single : Single denotes item) {pass next : Pass} {values : List α}
    (done : listed what item forward pass = .ok values next) :
    ∃ tokens list, Listed denotes tokens list values ∧
      pass.Reads tokens (reports [.items what list]) next := by
  unfold listed at done
  split at done
  · cases done
    exact ⟨[], [], .none, Pass.Reads.refl pass⟩
  · obtain ⟨tokens, list, separated, reads⟩ := separated_of_items single done
    exact ⟨tokens, list, .some separated, reads.cast rfl (surplusFrom_zero what list)⟩

end Items

/-- Calls on a callee that was derived before are derived with it. -/
theorem call_of_callsOn {callee expr : Expr} {start pass next : Pass} {tokens : List Token}
    {notes : List Note} (derived : Call tokens callee notes)
    (before : start.Reads tokens (reports notes) pass)
    (done : callsOn callee pass = .ok expr next) :
    ∃ tokens notes, Call tokens expr notes ∧ start.Reads tokens (reports notes) next := by
  refine Recursion.callsOn.value_induction
    (motive := fun callee pass expr next => ∀ {tokens notes}, Call tokens callee notes →
      start.Reads tokens (reports notes) pass →
      ∃ tokens notes, Call tokens expr notes ∧ start.Reads tokens (reports notes) next)
    ?_ done derived before
  intro again _ inductionHypothesis callee pass expr next done tokens notes derived before
  obtain ⟨dash, inside, taken, afterDash⟩ := bind_eq_ok done
  cases dash with
  | none =>
    obtain ⟨rfl, -⟩ := take?_eq_none_ok_iff.mp taken
    obtain ⟨rfl, rfl⟩ := pure_eq_ok afterDash
    exact ⟨tokens, notes, derived, before⟩
  | some dash =>
    obtain ⟨dashReads, isDash⟩ := take?_eq_some_ok_iff.mp taken
    obtain ⟨arguments, middle, listedDone, afterList⟩ := bind_eq_ok afterDash
    obtain ⟨paren, behind, closed, goesOn⟩ := bind_eq_ok afterList
    obtain ⟨inner, list, isListed, listReads⟩ := listed_of_listed single_primary listedDone
    obtain ⟨parenReads, isParen⟩ := expect_eq_ok_iff.mp closed
    refine inductionHypothesis goesOn
      (.call derived (List.mem_singleton.mp isDash) isListed isParen) ?_
    refine (before.trans (dashReads.trans (listReads.trans parenReads))).cast rfl ?_
    rw [reports_append, List.append_nil, List.nil_append]

theorem derives_call : Derives Call call := by
  intro pass expr next done
  obtain ⟨callee, middle, calleeDone, calls⟩ := bind_eq_ok done
  obtain ⟨token, reads, denotes⟩ := single_primary.mp calleeDone
  exact call_of_callsOn (.primary denotes) reads calls

theorem derives_unary : Derives Unary unary := by
  intro pass expr next done
  refine Recursion.unary.value_induction
    (motive := fun _ pass expr next => ∃ tokens notes, Unary tokens expr notes ∧
      pass.Reads tokens (reports notes) next) ?_ done
  intro again _ inductionHypothesis _ pass expr next done
  obtain ⟨operator, middle, taken, afterNot⟩ := bind_eq_ok done
  cases operator with
  | none =>
    obtain ⟨rfl, -⟩ := take?_eq_none_ok_iff.mp taken
    obtain ⟨tokens, notes, derived, reads⟩ := derives_call afterNot
    exact ⟨tokens, notes, .call derived, reads⟩
  | some operator =>
    obtain ⟨operatorReads, isNot⟩ := take?_eq_some_ok_iff.mp taken
    obtain ⟨right, last, rightDone, finished⟩ := bind_eq_ok afterNot
    obtain ⟨rfl, rfl⟩ := pure_eq_ok finished
    obtain ⟨tokens, notes, derived, reads⟩ := inductionHypothesis rightDone
    exact ⟨operator :: tokens, notes, .not (List.mem_singleton.mp isNot) derived,
      operatorReads.trans reads⟩

section Chains

variable {operators : List Kind} {inside : ∀ kind ∈ operators, kind ∈ Kind.inner}
  {join : Expr → Token → Expr → Expr} {operand : Reading Expr}
  {relation : List Token → Expr → List Note → Prop}

/-- Operators and operands behind a first operand that was derived before are derived with it. -/
theorem chain_of_chainOn (derives : Derives relation operand)
    {forward : operand.Forward (· ∈ Kind.inner)} {left expr : Expr} {start pass next : Pass}
    {tokens : List Token} {notes : List Note}
    (derived : Chain operators join relation tokens left notes)
    (before : start.Reads tokens (reports notes) pass)
    (done : chainOn operators inside join operand forward left pass = .ok expr next) :
    ∃ tokens notes, Chain operators join relation tokens expr notes ∧
      start.Reads tokens (reports notes) next := by
  refine (Recursion.chainOn operators inside join operand forward).value_induction
    (motive := fun left pass expr next => ∀ {tokens notes},
      Chain operators join relation tokens left notes →
      start.Reads tokens (reports notes) pass →
      ∃ tokens notes, Chain operators join relation tokens expr notes ∧
        start.Reads tokens (reports notes) next)
    ?_ done derived before
  intro again _ inductionHypothesis left pass expr next done tokens notes derived before
  obtain ⟨operator, middle, taken, afterOperator⟩ := bind_eq_ok done
  cases operator with
  | none =>
    obtain ⟨rfl, -⟩ := take?_eq_none_ok_iff.mp taken
    obtain ⟨rfl, rfl⟩ := pure_eq_ok afterOperator
    exact ⟨tokens, notes, derived, before⟩
  | some operator =>
    obtain ⟨operatorReads, isOperator⟩ := take?_eq_some_ok_iff.mp taken
    obtain ⟨right, last, rightDone, goesOn⟩ := bind_eq_ok afterOperator
    obtain ⟨tokens', notes', derived', reads'⟩ := derives rightDone
    refine inductionHypothesis goesOn (.join derived isOperator derived') ?_
    exact (before.trans (operatorReads.trans reads')).cast rfl (reports_append notes notes').symm

theorem derives_chain (derives : Derives relation operand)
    {progress : operand.Progress (· ∈ Kind.inner)} :
    Derives (Chain operators join relation) (chain operators inside join operand progress) := by
  intro pass expr next done
  obtain ⟨left, middle, leftDone, goesOn⟩ := bind_eq_ok done
  obtain ⟨tokens, notes, derived, reads⟩ := derives leftDone
  exact chain_of_chainOn derives (.operand derived) reads goesOn

end Chains

theorem derives_disjunction : Derives Disjunction disjunction :=
  derives_chain (derives_chain (derives_chain derives_unary))

end Reading

/-- A disjunction that is a variable is a single token. -/
theorem Grammar.Disjunction.eq_of_name {tokens : List Token} {name : Token} {notes : List Note}
    (derived : Disjunction tokens (.name name) notes) :
    tokens = [name] ∧ name.kind = .identifier ∧ notes = [] := by
  generalize same : Expr.name name = expr at derived
  cases derived with
  | join => cases same
  | operand derived =>
    cases derived with
    | join => cases same
    | operand derived =>
      cases derived with
      | join => cases same
      | operand derived =>
        cases derived with
        | not => cases same
        | call derived =>
          cases derived with
          | call => cases same
          | primary denotes =>
            subst same
            cases denotes with
            | name kind => exact ⟨rfl, kind, rfl⟩

namespace Reading

/-- Every expression that is read is derived from the tokens that are read. -/
theorem derives_expression : Derives (Assignment .full) expression := by
  intro pass expr next done
  refine Recursion.assignment.value_induction
    (motive := fun _ pass expr next => ∃ tokens notes, Assignment .full tokens expr notes ∧
      pass.Reads tokens (reports notes) next) ?_ done
  intro again _ inductionHypothesis _ pass expr next done
  obtain ⟨target, middle, targetDone, afterTarget⟩ := bind_eq_ok done
  obtain ⟨tokens, notes, derived, reads⟩ := derives_disjunction targetDone
  obtain ⟨be, behind, taken, afterBe⟩ := bind_eq_ok afterTarget
  cases be with
  | none =>
    obtain ⟨rfl, -⟩ := take?_eq_none_ok_iff.mp taken
    obtain ⟨rfl, rfl⟩ := pure_eq_ok afterBe
    exact ⟨tokens, notes, .value derived, reads⟩
  | some be =>
    obtain ⟨beReads, isBe⟩ := take?_eq_some_ok_iff.mp taken
    obtain ⟨value, last, valueDone, joined⟩ := bind_eq_ok afterBe
    obtain ⟨tokens', notes', derived', reads'⟩ := inductionHypothesis valueDone
    have read := reads.trans (beReads.trans reads')
    unfold assigned at joined
    split at joined
    · rename_i name
      cases joined
      obtain ⟨rfl, isName, rfl⟩ := derived.eq_of_name
      exact ⟨_, _, .assign isName (List.mem_singleton.mp isBe) derived', read⟩
    · rename_i noName
      cases joined
      refine ⟨_, _, .dropped trivial derived noName (List.mem_singleton.mp isBe) derived', ?_⟩
      refine (read.trans (Pass.reads_report last be .badTarget)).cast (List.append_nil _) ?_
      rw [reports_append, reports_append, reports_singleton, List.nil_append, List.append_assoc]
      rfl

/-! ### How derivations begin -/

end Reading

namespace Grammar

/-- The kinds of token that denote an expression. -/
def leaves : List Kind :=
  [.word .false_, .word .true_, .word .nothing, .string, .number, .identifier]

theorem Denotes.kind_mem {token : Token} {expr : Expr} (denotes : Denotes token expr) :
    token.kind ∈ leaves := by
  cases denotes with
  | no kind => rw [kind]; decide
  | yes kind => rw [kind]; decide
  | nothing kind => rw [kind]; decide
  | own kind => rcases kind with kind | kind <;> rw [kind] <;> decide
  | text kind => rw [kind]; decide
  | numeral kind => rw [kind]; decide
  | name kind => rw [kind]; decide

theorem Separated.exists_head {α : Type} {denotes : Token → α → Prop} {tokens list : List Token}
    {values : List α} (separated : Separated denotes tokens list values) :
    ∃ token rest value, tokens = token :: rest ∧ denotes token value := by
  cases separated with
  | one isItem => exact ⟨_, _, _, rfl, isItem⟩
  | more isItem => exact ⟨_, _, _, rfl, isItem⟩

/-- The kinds of token that an expression begins with. -/
def expressionHeads : List Kind :=
  .word .not :: leaves

theorem Call.exists_head {tokens : List Token} {expr : Expr} {notes : List Note}
    (derived : Call tokens expr notes) :
    ∃ token rest, tokens = token :: rest ∧ token.kind ∈ leaves := by
  induction derived with
  | primary denotes => exact ⟨_, _, rfl, denotes.kind_mem⟩
  | call _ _ _ _ inductionHypothesis =>
    obtain ⟨token, rest, rfl, kind⟩ := inductionHypothesis
    exact ⟨token, _, rfl, kind⟩

theorem Unary.exists_head {tokens : List Token} {expr : Expr} {notes : List Note}
    (derived : Unary tokens expr notes) :
    ∃ token rest, tokens = token :: rest ∧ token.kind ∈ expressionHeads := by
  cases derived with
  | call derived =>
    obtain ⟨token, rest, same, leaf⟩ := derived.exists_head
    exact ⟨token, rest, same, List.mem_cons_of_mem _ leaf⟩
  | not isNot => exact ⟨_, _, rfl, by rw [isNot]; exact List.mem_cons_self⟩

theorem Chain.exists_head {operators : List Kind} {join : Expr → Token → Expr → Expr}
    {operand : List Token → Expr → List Note → Prop}
    (head : ∀ {tokens expr notes}, operand tokens expr notes →
      ∃ token rest, tokens = token :: rest ∧ token.kind ∈ expressionHeads)
    {tokens : List Token} {expr : Expr} {notes : List Note}
    (derived : Chain operators join operand tokens expr notes) :
    ∃ token rest, tokens = token :: rest ∧ token.kind ∈ expressionHeads := by
  induction derived with
  | operand derived => exact head derived
  | join _ _ _ inductionHypothesis =>
    obtain ⟨token, rest, rfl, kind⟩ := inductionHypothesis
    exact ⟨token, _, rfl, kind⟩

theorem Disjunction.exists_head {tokens : List Token} {expr : Expr} {notes : List Note}
    (derived : Disjunction tokens expr notes) :
    ∃ token rest, tokens = token :: rest ∧ token.kind ∈ expressionHeads :=
  Chain.exists_head (Chain.exists_head (Chain.exists_head Unary.exists_head)) derived

theorem Assignment.exists_head {leniency : Leniency} {tokens : List Token} {expr : Expr}
    {notes : List Note} (derived : Assignment leniency tokens expr notes) :
    ∃ token rest, tokens = token :: rest ∧ token.kind ∈ expressionHeads := by
  cases derived with
  | value derived => exact derived.exists_head
  | assign isName => exact ⟨_, _, rfl, by rw [isName]; decide⟩
  | dropped _ derived =>
    obtain ⟨token, rest, rfl, kind⟩ := derived.exists_head
    exact ⟨token, _, rfl, kind⟩

end Grammar

namespace Reading

/-! ### What has a derivation is read -/

/-- A reading that reads tokens as the value they derive, if the token behind them has none of some
kinds. -/
def Accepts {α : Type} (relation : List Token → α → List Note → Prop) (follow : List Kind)
    (reading : Reading α) : Prop :=
  ∀ {tokens value notes pass next}, relation tokens value notes →
    pass.Reads tokens (reports notes) next → next.Clear follow → reading pass = .ok value next

section Items

variable {α : Type} {denotes : Token → α → Prop} {item : Reading α} {what : String}
  {forward : item.Forward (· ∈ Kind.inner)}

theorem item_of_reads (single : Single denotes item) {count : Nat} {pass next : Pass}
    {token : Token} {value : α} (isItem : denotes token value)
    (reads : pass.Reads [token] (surplus what count token) next) :
    ∃ middle, noteArity what count pass = .ok () middle ∧ item middle = .ok value next := by
  have current : pass.current = token := Pass.current_of_ahead reads.ahead
  obtain ⟨middle, reported, itemReads⟩ :=
    (reads.cast (List.nil_append _).symm (List.append_nil _).symm).split
  refine ⟨middle, noteArity_eq_ok_iff.mpr ?_, single.mpr ⟨token, itemReads, isItem⟩⟩
  rw [current]
  exact reported

theorem items_of_separated (single : Single denotes item) {count : Nat} {pass next : Pass}
    {tokens list : List Token} {values : List α} (separated : Separated denotes tokens list values)
    (reads : pass.Reads tokens (surplusFrom what count list) next)
    (clear : next.Clear [.mark .comma]) :
    items what item forward count pass = .ok values next := by
  induction separated generalizing count pass with
  | one isItem =>
    obtain ⟨middle, noted, done⟩ :=
      item_of_reads single isItem (reads.cast rfl (List.append_nil _))
    rw [items_eq, bind_of_ok noted, bind_of_ok done,
      bind_of_ok (take?_eq_none_ok_iff.mpr ⟨rfl, clear⟩)]
    rfl
  | @more token value comma tokens list values isItem isComma _ inductionHypothesis =>
    have parts : pass.Reads ([token] ++ comma :: tokens)
      (surplus what count token ++ surplusFrom what (count + 1) list) next := reads
    obtain ⟨last, itemReads, behindItem⟩ := parts.split
    obtain ⟨middle, noted, done⟩ := item_of_reads single isItem itemReads
    obtain ⟨behind, commaReads, restReads⟩ := behindItem.uncons
    have taken := take?_eq_some_ok_iff.mpr ⟨commaReads, List.mem_singleton.mpr isComma⟩
    rw [items_eq, bind_of_ok noted, bind_of_ok done,
      bind_of_ok taken]
    exact bind_of_ok (inductionHypothesis restReads)

theorem listed_of_derives (single : Single denotes item)
    (noDash : ∀ token value, denotes token value → token.kind ≠ .mark .emDash) {pass next : Pass}
    {tokens list : List Token} {values : List α} (derived : Listed denotes tokens list values)
    (reads : pass.Reads tokens (reports [.items what list]) next)
    (closes : next.check (.mark .emDash) = true) :
    listed what item forward pass = .ok values next := by
  cases derived with
  | none =>
    rw [reads.unique (Pass.Reads.refl pass)] at closes ⊢
    rw [listed, if_pos closes]
  | some separated =>
    obtain ⟨dash, rest, ahead, isDash⟩ := Pass.check_eq_true_iff.mp closes
    have clear : next.Clear [.mark .comma] := Pass.clear_of_ahead ahead (by rw [isDash]; decide)
    obtain ⟨token, rest, value, rfl, isItem⟩ := separated.exists_head
    have goes : pass.check (.mark .emDash) = false :=
      Pass.check_eq_false reads.ahead (noDash token value isItem)
    rw [listed, goes]
    exact items_of_separated single separated
      (reads.cast rfl (surplusFrom_zero what list).symm) clear

end Items

/-- Behind a call that was derived, the reading goes on with further argument lists. -/
theorem call_of_derives {tokens : List Token} {expr : Expr} {notes : List Note} {pass next : Pass}
    (derived : Call tokens expr notes) (reads : pass.Reads tokens (reports notes) next) :
    call pass = callsOn expr next := by
  induction derived generalizing next with
  | primary denotes => exact bind_of_ok (single_primary.mpr ⟨_, reads, denotes⟩)
  | @call tokens callee notes before inner list arguments paren _ isDash isListed isParen
      inductionHypothesis =>
    rw [reports_append] at reads
    obtain ⟨middle, calleeReads, reads'⟩ := reads.split
    obtain ⟨inside, dashReads, reads''⟩ := reads'.uncons
    obtain ⟨behind, listReads, parenReads⟩ := reads''.unsnoc
    have closes : behind.check (.mark .emDash) = true :=
      Pass.check_eq_true_iff.mpr ⟨paren, next.ahead, parenReads.ahead, isParen⟩
    have noDash (token : Token) (value : Expr) (denotes : Denotes token value) :
        token.kind ≠ .mark .emDash := fun kind => by
      have leaf := denotes.kind_mem
      rw [kind] at leaf
      exact absurd leaf (by decide)
    have taken := take?_eq_some_ok_iff.mpr ⟨dashReads, List.mem_singleton.mpr isDash⟩
    have listedDone : Reading.arguments inside = .ok arguments behind :=
      listed_of_derives single_primary noDash isListed listReads closes
    rw [inductionHypothesis calleeReads, callsOn_eq, bind_of_ok taken]
    exact (bind_of_ok listedDone).trans (bind_of_ok (expect_eq_ok_iff.mpr ⟨parenReads, isParen⟩))

theorem accepts_call : Accepts Call [.mark .emDash] call := by
  intro tokens expr notes pass next derived reads clear
  rw [call_of_derives derived reads, callsOn_eq,
    bind_of_ok (take?_eq_none_ok_iff.mpr ⟨rfl, clear⟩)]
  rfl

theorem accepts_unary : Accepts Unary [.mark .emDash] unary := by
  intro tokens expr notes pass next derived reads clear
  induction derived generalizing pass with
  | call derived =>
    obtain ⟨token, rest, rfl, leaf⟩ := derived.exists_head
    have other : pass.Clear [.word .not] :=
      Pass.clear_of_ahead reads.ahead fun isNot => by
        rw [List.mem_singleton.mp isNot] at leaf
        exact absurd leaf (by decide)
    rw [unary_eq, bind_of_ok (take?_eq_none_ok_iff.mpr ⟨rfl, other⟩)]
    exact accepts_call derived reads clear
  | not isNot _ inductionHypothesis =>
    obtain ⟨middle, operatorReads, rightReads⟩ := reads.uncons
    have taken := take?_eq_some_ok_iff.mpr ⟨operatorReads, List.mem_singleton.mpr isNot⟩
    rw [unary_eq, bind_of_ok taken]
    exact bind_of_ok (inductionHypothesis rightReads)

section Chains

variable {operators follow : List Kind} {inside : ∀ kind ∈ operators, kind ∈ Kind.inner}
  {join : Expr → Token → Expr → Expr} {operand : Reading Expr}
  {progress : operand.Progress (· ∈ Kind.inner)} {relation : List Token → Expr → List Note → Prop}

/-- Behind a chain that was derived, the reading goes on with further operators. -/
theorem chain_of_derives (accepts : Accepts relation follow operand)
    (disjoint : ∀ kind ∈ operators, kind ∉ follow) {tokens : List Token} {expr : Expr}
    {notes : List Note} {pass next : Pass}
    (derived : Chain operators join relation tokens expr notes)
    (reads : pass.Reads tokens (reports notes) next) (clear : next.Clear follow) :
    chain operators inside join operand progress pass =
      chainOn operators inside join operand progress.toForward expr next := by
  induction derived generalizing next with
  | operand derived => exact bind_of_ok (accepts derived reads clear)
  | @join tokens left notes operator tokens' right notes' _ isOperator derived
      inductionHypothesis =>
    rw [reports_append] at reads
    obtain ⟨middle, leftReads, reads'⟩ := reads.split
    obtain ⟨behind, operatorReads, rightReads⟩ := reads'.uncons
    have between : middle.Clear follow :=
      Pass.clear_of_ahead operatorReads.ahead (disjoint _ isOperator)
    rw [inductionHypothesis leftReads between, chainOn_eq,
      bind_of_ok (take?_eq_some_ok_iff.mpr ⟨operatorReads, isOperator⟩)]
    exact bind_of_ok (accepts derived rightReads clear)

theorem accepts_chain (accepts : Accepts relation follow operand)
    (disjoint : ∀ kind ∈ operators, kind ∉ follow) :
    Accepts (Chain operators join relation) (operators ++ follow)
      (chain operators inside join operand progress) := by
  intro tokens expr notes pass next derived reads clear
  have clearOperators : next.Clear operators := clear.mono (List.subset_append_left _ _)
  have clearFollow : next.Clear follow := clear.mono (List.subset_append_right _ _)
  rw [chain_of_derives accepts disjoint derived reads clearFollow, chainOn_eq,
    bind_of_ok (take?_eq_none_ok_iff.mpr ⟨rfl, clearOperators⟩)]
  rfl

end Chains

/-- The kinds of token that go on with a disjunction. -/
def disjunctionFollow : List Kind :=
  [.word .or] ++ ([.word .and] ++ (Kind.equalities ++ [.mark .emDash]))

theorem accepts_disjunction : Accepts Disjunction disjunctionFollow disjunction :=
  accepts_chain (accepts_chain (accepts_chain accepts_unary (by decide)) (by decide)) (by decide)

/-- Tokens are read as the expression they derive, unless the token behind them goes on with it. -/
theorem accepts_expression (leniency : Leniency) :
    Accepts (Assignment leniency) (.word .be :: disjunctionFollow) expression := by
  intro tokens expr notes pass next derived reads clear
  induction derived generalizing pass next with
  | value derived =>
    have clearBe : next.Clear [.word .be] := clear.mono (by decide)
    have clearFollow : next.Clear disjunctionFollow := clear.mono (List.subset_cons_self _ _)
    rw [expression_eq, bind_of_ok (accepts_disjunction derived reads clearFollow),
      bind_of_ok (take?_eq_none_ok_iff.mpr ⟨rfl, clearBe⟩)]
    rfl
  | @assign name be tokens value notes isName isBe _ inductionHypothesis =>
    obtain ⟨middle, nameReads, reads'⟩ := reads.uncons
    obtain ⟨behind, beReads, valueReads⟩ := reads'.uncons
    have target : Disjunction [name] (.name name) [] :=
      .operand (.operand (.operand (.call (.primary (.name isName)))))
    have between : middle.Clear disjunctionFollow :=
      Pass.clear_of_ahead beReads.ahead (by rw [isBe]; decide)
    rw [expression_eq, bind_of_ok (accepts_disjunction target nameReads between),
      bind_of_ok (take?_eq_some_ok_iff.mpr ⟨beReads, List.mem_singleton.mpr isBe⟩)]
    exact bind_of_ok (inductionHypothesis valueReads clear)
  | @dropped tokens target notes be tokens' value notes' _ derived noName isBe _
      inductionHypothesis =>
    rw [reports_append] at reads
    obtain ⟨middle, targetReads, reads'⟩ := reads.split
    obtain ⟨behind, beReads, reads''⟩ := reads'.uncons
    rw [reports_append, ← List.append_nil tokens'] at reads''
    obtain ⟨last, valueReads, targetReport⟩ := reads''.split
    have between : middle.Clear disjunctionFollow :=
      Pass.clear_of_ahead beReads.ahead (by rw [isBe]; decide)
    have joined : assigned target be value last = .ok value next := by
      rw [targetReport.unique (Pass.reads_report last be .badTarget)]
      unfold assigned
      split
      · exact absurd rfl (noName _)
      · rfl
    rw [expression_eq, bind_of_ok (accepts_disjunction derived targetReads between),
      bind_of_ok (take?_eq_some_ok_iff.mpr ⟨beReads, List.mem_singleton.mpr isBe⟩)]
    have valueRead := inductionHypothesis valueReads (targetReport.clear_of_nil clear)
    exact (bind_of_ok valueRead).trans joined

end Reading

end Parlance
