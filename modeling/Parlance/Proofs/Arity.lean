/-
This file says what is reported of one list of parameters or arguments, however it is written. A
list is read item by item, with a comma behind each item that is not the last, until an item has no
comma behind it or a comma has no item behind it. Whether it is too long is asked before an item is
read, where as many items stand in front as there may be. So a list with more items than that is
reported once, at the first item too many. But a list that has just as many, and breaks off behind
the comma after the last one, is reported too, at a token that is no item; for that token also the
list fails.
-/

import Parlance.Proofs.Expression

namespace Parlance

open Grammar Reading

/-- How far a reading gets, whether it gives a value or fails. -/
def Reading.reached {α : Type} (reading : Reading α) (pass : Pass) : Pass :=
  match reading pass with
  | .ok _ next => next
  | .error _ next => next

namespace Reading

variable {α β : Type} {reading : Reading α} {continuation : α → Reading β} {pass next : Pass}
  {value : α} {fault : Fault}

theorem reached_of_ok (done : reading pass = .ok value next) : reading.reached pass = next := by
  rw [reached, done]

theorem reached_of_error (failed : reading pass = .error fault next) :
    reading.reached pass = next := by
  rw [reached, failed]

theorem reached_bind_of_ok (done : reading pass = .ok value next) :
    (reading >>= continuation).reached pass = (continuation value).reached next := by
  rw [reached, reached, bind_of_ok done]

theorem reached_bind_of_error (failed : reading pass = .error fault next) :
    (reading >>= continuation).reached pass = next :=
  reached_of_error (bind_of_error failed)

theorem reached_bind_pure (reading : Reading α) (result : α → β) (pass : Pass) :
    (reading >>= fun value => pure (result value)).reached pass = reading.reached pass := by
  cases outcome : reading pass with
  | ok value next => rw [reached_bind_of_ok outcome, reached_of_ok outcome]; rfl
  | error fault next => rw [reached_bind_of_error outcome, reached_of_error outcome]

end Reading

/-! ### Lists -/

/-- The lists that can be too long. -/
inductive ListForm where
  | parameters
  | arguments
deriving DecidableEq

namespace ListForm

/-- What the items of a list are called in reports. -/
def what : ListForm → String
  | parameters => "parameters"
  | arguments => "arguments"

/-- A token that can be an item of a list. -/
def IsItem : ListForm → Token → Prop
  | parameters, token => token.kind = .identifier
  | arguments, token => ∃ expr, token.primary = .ok expr

/-- How far the reading of a list gets. -/
def reached : ListForm → Pass → Pass
  | parameters => Reading.parameters.reached
  | arguments => Reading.arguments.reached

/-- The report that a list is too long, at a token. -/
def overlong (form : ListForm) (token : Token) : Diagnostic :=
  ⟨token, token.fault (.tooMany form.what maxArity)⟩

/-- The kinds of token that can be an item of a list: names, and among arguments also values. -/
def kinds : ListForm → List Kind
  | parameters => [.identifier]
  | arguments => leaves

theorem IsItem.kind_mem {form : ListForm} {token : Token} (isItem : form.IsItem token) :
    token.kind ∈ form.kinds := by
  cases form with
  | parameters => exact List.mem_singleton.mpr isItem
  | arguments =>
    obtain ⟨expr, isExpr⟩ := isItem
    exact (Token.primary_eq_ok_iff.mp isExpr).kind_mem

end ListForm

/-- Tokens that are items with a comma behind each of them, except perhaps behind the last one. -/
inductive Taken (isItem : Token → Prop) : (tokens items : List Token) → Prop
  | nil : Taken isItem [] []
  | last {item} : isItem item → Taken isItem [item] [item]
  | more {item comma tokens items} : isItem item → comma.kind = .mark .comma →
      Taken isItem tokens items → Taken isItem (item :: comma :: tokens) (item :: items)

namespace Taken

variable {isItem : Token → Prop} {tokens items : List Token}

/-- There are as many commas as items, or one comma less. -/
theorem length_eq (taken : Taken isItem tokens items) :
    tokens.length = 2 * items.length ∨ tokens.length + 1 = 2 * items.length := by
  induction taken with
  | nil => exact .inl rfl
  | last => exact .inr rfl
  | more _ _ _ inductionHypothesis =>
    simp only [List.length_cons]
    omega

theorem isItem_of_mem (taken : Taken isItem tokens items) : ∀ item ∈ items, isItem item := by
  induction taken with
  | nil => exact fun _ member => absurd member List.not_mem_nil
  | last holds => exact List.forall_mem_singleton.mpr holds
  | more holds _ _ inductionHypothesis =>
    exact List.forall_mem_cons.mpr ⟨holds, inductionHypothesis⟩

end Taken

/-! ### Reading a list -/

namespace Reading

section Items

variable {α : Type} {isItem : Token → Prop} {item : Reading α}

/-- A reading of single tokens that are items, which fails where there is none. -/
structure ReadsItem (isItem : Token → Prop) (item : Reading α) : Prop where
  done : ∀ {pass value next}, item pass = .ok value next →
    ∃ token, pass.Reads [token] [] next ∧ isItem token
  failed : ∀ {pass fault next}, item pass = .error fault next →
    next = pass ∧ ¬ isItem pass.current

theorem readsItem_parameter (message : String) :
    ReadsItem ListForm.parameters.IsItem (expect .identifier message) where
  done {pass token next} done := ⟨token, expect_eq_ok_iff.mp done⟩
  failed {pass _ _} failed := by
    obtain ⟨clear, same, -⟩ := expect_eq_error_iff.mp failed
    refine ⟨same, fun isName => ?_⟩
    have kind : pass.current.kind = .identifier := isName
    cases ahead : pass.ahead with
    | nil =>
      rw [Pass.kind_current_of_nil ahead] at kind
      cases kind
    | cons token rest =>
      rw [Pass.current_of_ahead ahead] at kind
      exact clear token (by rw [ahead]; rfl) (List.mem_singleton.mpr kind)

theorem readsItem_argument : ReadsItem ListForm.arguments.IsItem primary where
  done done := by
    obtain ⟨token, reads, isExpr⟩ := primary_eq_ok_iff.mp done
    exact ⟨token, reads, _, isExpr⟩
  failed failed := by
    obtain ⟨same, cause, refused, -⟩ := primary_eq_error_iff.mp failed
    refine ⟨same, fun ⟨expr, isExpr⟩ => ?_⟩
    cases refused.symm.trans isExpr

/-- What is looked at as the last item: nothing, or the token where an item is missing. -/
def missed (tokens items : List Token) (current : Token) : List Token :=
  if tokens.length = 2 * items.length then [current] else []

/-- A list has been read as far as it goes: items were taken, and it was asked before each of them,
and before a missing one, whether it is the first one too many. -/
structure TakesItems (isItem : Token → Prop) (what : String) (count : Nat) (pass : Pass)
    (tokens items : List Token) (next : Pass) : Prop where
  taken : Taken isItem tokens items
  reads : pass.Reads tokens
    (surplusFrom what count (items ++ missed tokens items next.current)) next
  noItem : tokens.length = 2 * items.length → ¬ isItem next.current

theorem missed_cons (item comma : Token) (tokens items : List Token) (current : Token) :
    missed (item :: comma :: tokens) (item :: items) current = missed tokens items current := by
  have same : (item :: comma :: tokens).length = 2 * (item :: items).length ↔
      tokens.length = 2 * items.length := by
    simp only [List.length_cons]
    omega
  simp only [missed, same]

/-- An item that is not there. -/
theorem takesItems_nil {what : String} {count : Nat} {pass next : Pass}
    (reported : pass.Reads [] (surplus what count pass.current) next)
    (noItem : ¬ isItem next.current) : TakesItems isItem what count pass [] [] next where
  taken := .nil
  reads := by
    rw [reported.current_eq_of_nil] at reported
    exact reported.cast rfl (List.append_nil _).symm
  noItem _ := noItem

theorem takesItems_last {what : String} {count : Nat} {pass next : Pass} {token : Token}
    (holds : isItem token) (reads : pass.Reads [token] (surplus what count token) next) :
    TakesItems isItem what count pass [token] [token] next where
  taken := .last holds
  reads := reads.cast rfl (List.append_nil _).symm
  noItem odd := by cases odd

theorem TakesItems.cons {what : String} {count : Nat} {pass middle behind next : Pass}
    {token comma : Token} {tokens items : List Token} (holds : isItem token)
    (reads : pass.Reads [token] (surplus what count token) middle)
    (isComma : comma.kind = .mark .comma) (commaReads : middle.Reads [comma] [] behind)
    (rest : TakesItems isItem what (count + 1) behind tokens items next) :
    TakesItems isItem what count pass (token :: comma :: tokens) (token :: items) next where
  taken := .more holds isComma rest.taken
  reads := by
    rw [missed_cons]
    exact reads.trans (commaReads.trans rest.reads)
  noItem even := by
    simp only [List.length_cons] at even
    exact rest.noItem (by omega)

/-- An item is read and perhaps reported, or it is missing, and then what is reported instead is the
token in its place. -/
theorem item_cases (readsItem : ReadsItem isItem item) (what : String) (count : Nat)
    (pass : Pass) :
    (∃ value token next, (noteArity what count >>= fun _ => item) pass = .ok value next ∧
      isItem token ∧ pass.Reads [token] (surplus what count token) next) ∨
    ∃ fault next, (noteArity what count >>= fun _ => item) pass = .error fault next ∧
      ¬ isItem next.current ∧ pass.Reads [] (surplus what count pass.current) next := by
  have ⟨middle, noted⟩ : ∃ middle, noteArity what count pass = .ok () middle := by
    unfold noteArity
    split <;> exact ⟨_, rfl⟩
  rw [bind_of_ok noted]
  cases outcome : item middle with
  | ok value next =>
    obtain ⟨token, reads, holds⟩ := readsItem.done outcome
    exact .inl ⟨value, token, next, rfl, holds, reads_of_noteArity noted reads⟩
  | error fault next =>
    obtain ⟨rfl, noItem⟩ := readsItem.failed outcome
    exact .inr ⟨fault, next, rfl, noItem, noteArity_eq_ok_iff.mp noted⟩

/-- Items are taken up to one without a comma behind it, or up to one that is missing. -/
theorem exists_takesItems (readsItem : ReadsItem isItem item)
    (forward : item.Forward (· ∈ Kind.inner)) (what : String) (count : Nat) (pass : Pass) :
    ∃ tokens items', TakesItems isItem what count pass tokens items'
      ((Reading.items what item forward count).reached pass) := by
  induction left : pass.left using Nat.strongRecOn generalizing count pass with
  | ind left inductionHypothesis =>
    subst left
    rw [items_eq, ← bind_assoc]
    rcases item_cases readsItem what count pass with
      ⟨value, token, next, done, holds, reads⟩ | ⟨fault, next, failed, noItem, reported⟩
    · rw [reached_bind_of_ok done]
      cases taken : take? [.mark .comma] next with
      | error => exact absurd taken take?_ne_error
      | ok comma behind =>
        rw [reached_bind_of_ok taken]
        cases comma with
        | none =>
          obtain ⟨rfl, -⟩ := take?_eq_none_ok_iff.mp taken
          exact ⟨_, _, takesItems_last holds reads⟩
        | some comma =>
          obtain ⟨commaReads, isComma⟩ := take?_eq_some_ok_iff.mp taken
          have shorter := (reads.trans commaReads).left_lt (List.cons_ne_nil _ _)
          obtain ⟨tokens, items, rest⟩ := inductionHypothesis _ shorter (count + 1) behind rfl
          have rest := rest.cons holds reads (List.mem_singleton.mp isComma) commaReads
          rw [reached_bind_pure]
          exact ⟨_, _, rest⟩
    · rw [reached_bind_of_error failed]
      exact ⟨_, _, takesItems_nil reported noItem⟩

/-- A list without items ends where it begins, at a token that is no item. -/
theorem exists_takesItems_listed (readsItem : ReadsItem isItem item)
    (forward : item.Forward (· ∈ Kind.inner))
    (noDash : ∀ token, isItem token → token.kind ≠ .mark .emDash) (what : String) (pass : Pass) :
    ∃ tokens items, TakesItems isItem what 0 pass tokens items
      ((listed what item forward).reached pass) := by
  cases closes : pass.check (.mark .emDash) with
  | true =>
    have done : listed what item forward pass = .ok [] pass := by rw [listed, if_pos closes]
    rw [reached_of_ok done]
    refine ⟨[], [], takesItems_nil (Pass.Reads.refl pass) fun isItem => ?_⟩
    obtain ⟨dash, rest, ahead, isDash⟩ := Pass.check_eq_true_iff.mp closes
    exact noDash _ isItem (Pass.current_of_ahead ahead ▸ isDash)
  | false =>
    have goes : listed what item forward pass = items what item forward 0 pass := by
      rw [listed, closes]
      rfl
    rw [Reading.reached, goes]
    exact exists_takesItems readsItem forward what 0 pass

end Items

end Reading

theorem ListForm.exists_takesItems (form : ListForm) (pass : Pass) :
    ∃ tokens items, TakesItems form.IsItem form.what 0 pass tokens items (form.reached pass) := by
  have noDash : ∀ token, form.IsItem token → token.kind ≠ .mark .emDash := by
    intro token isItem kind
    have isKind := isItem.kind_mem
    rw [kind] at isKind
    cases form <;> exact absurd isKind (by decide)
  cases form with
  | parameters => exact exists_takesItems_listed (readsItem_parameter _) _ noDash _ pass
  | arguments => exact exists_takesItems_listed readsItem_argument _ noDash _ pass

/-- A list and the pass with which its reading begins. -/
structure Listing where
  form : ListForm
  begun : Pass

namespace Listing

/-- The pass with which the reading of the list stops. -/
def stopped (list : Listing) : Pass :=
  list.form.reached list.begun

/-- What is reported while the list is read. -/
def reports (list : Listing) : List Diagnostic :=
  list.stopped.log.reported.drop list.begun.log.reported.length

theorem reports_eq {list : Listing} {tokens : List Token} {reports : List Diagnostic}
    (reads : list.begun.Reads tokens reports list.stopped) : list.reports = reports := by
  rw [Listing.reports, reads.log, List.drop_left]

/-- A list has one report at most. -/
theorem reports_cases (list : Listing) :
    list.reports = [] ∨ ∃ token, list.reports = [list.form.overlong token] := by
  obtain ⟨tokens, items, -, reads, -⟩ := list.form.exists_takesItems list.begun
  rw [reports_eq reads, surplusFrom_eq (Nat.zero_add maxArity)]
  cases (items ++ missed tokens items (list.form.reached list.begun).current)[maxArity]? with
  | none => exact .inl rfl
  | some token => exact .inr ⟨token, rfl⟩

/-- A list that has items enough is reported at the first one too many, a list that breaks off where
this one should be is reported at the token in its place, and no other list is reported. -/
theorem reports_described (list : Listing) : ∃ tokens items,
    list.begun.Reads tokens list.reports list.stopped ∧ Taken list.form.IsItem tokens items ∧
    (maxArity < items.length → ∃ item, items[maxArity]? = some item ∧
      list.reports = [list.form.overlong item]) ∧
    (tokens.length = 2 * maxArity → items.length = maxArity ∧
      ¬ list.form.IsItem list.stopped.current ∧
      list.reports = [list.form.overlong list.stopped.current]) ∧
    (items.length ≤ maxArity → tokens.length ≠ 2 * maxArity → list.reports = []) := by
  obtain ⟨tokens, items, taken, reads, noItem⟩ := list.form.exists_takesItems list.begun
  have same := reports_eq reads
  rw [surplusFrom_eq (Nat.zero_add maxArity)] at same
  refine ⟨tokens, items, reads.cast rfl (reports_eq reads).symm, taken, ?_, ?_, ?_⟩
  · intro more
    obtain ⟨item, found⟩ : ∃ item, items[maxArity]? = some item :=
      ⟨_, List.getElem?_eq_getElem more⟩
    rw [List.getElem?_append_left more, found] at same
    exact ⟨item, found, same⟩
  · intro length
    have full : items.length = maxArity := by
      have := taken.length_eq
      omega
    have even : tokens.length = 2 * items.length := by rw [length, full]
    rw [missed, if_pos even, List.getElem?_append_right (Nat.le_of_eq full), full,
      Nat.sub_self] at same
    exact ⟨full, noItem even, same⟩
  · intro few unbroken
    have short : (items ++ missed tokens items (list.form.reached list.begun).current).length ≤
        maxArity := by
      unfold missed
      split
      · rw [List.length_append, List.length_singleton]
        omega
      · rwa [List.append_nil]
    rw [List.getElem?_eq_none short] at same
    exact same

end Listing

end Parlance
