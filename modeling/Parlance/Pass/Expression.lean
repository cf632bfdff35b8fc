/-
This file reads expressions. From the loosest binding to the tightest they are assignments with
`be`, which group to the right; `or`, `and` and the words for equality, which group to the left;
`not`; calls, which are a primary followed by any number of argument lists between em-dashes; and
primaries, which are single tokens. An argument is a primary too.

Each loop goes on only behind a token that it has read, which is all it takes to be a recursion.
-/

import Parlance.Number.Reader
import Parlance.Pass.Recursion
import Parlance.Tree.Expr

namespace Parlance

/-! ### Single tokens -/

/-- The expression that a single token is. A string or number without a value of its own stands for
its text. -/
def Token.primary (token : Token) : Except Cause Expr :=
  match token.kind with
  | .word .false_ => .ok (.literal (.bool false))
  | .word .true_ => .ok (.literal (.bool true))
  | .word .nothing => .ok (.literal .nothing)
  | .string => .ok (.literal (token.literal.getD (.string token.value)))
  | .number =>
    match token.literal with
    | some literal => .ok (.literal literal)
    | none =>
      match Number.ofText? token.value.toList with
      | some number => .ok (.literal (.number number))
      | none => .error (.badNumber token.value)
  | .identifier => .ok (.name token)
  | _ => .error (.noExpression token.value)

namespace Reading

/-- Reads a single token as an expression. -/
def primary : Reading Expr := fun pass =>
  match pass.current.primary with
  | .ok expr => .ok expr pass.advance
  | .error cause => .error (pass.current.fault cause) pass

/-- A token that is an expression has the kind of one. -/
theorem kind_mem_inner_of_primary {token : Token} {expr : Expr}
    (primary : token.primary = .ok expr) : token.kind ∈ Kind.inner := by
  unfold Token.primary at primary
  split at primary
  all_goals first
    | (rename_i kind; rw [kind]; decide)
    | cases primary

theorem fatal_of_primary {token : Token} {cause : Cause} (primary : token.primary = .error cause) :
    cause.fatal = true := by
  unfold Token.primary at primary
  split at primary
  case h_5 =>
    split at primary
    · cases primary
    · split at primary <;> cases primary
      rfl
  all_goals cases primary
  rfl

/-- A single token is read as an expression if it is one, and nothing is at the end. -/
theorem primary_eq_ok_iff {pass next : Pass} {expr : Expr} :
    primary pass = .ok expr next ↔
      ∃ token, pass.Reads [token] [] next ∧ token.primary = .ok expr := by
  cases ahead : pass.ahead with
  | nil =>
    have noExpr : pass.current.primary = .error (.noExpression pass.current.value) := by
      unfold Token.primary
      rw [Pass.kind_current_of_nil ahead]
    refine iff_of_false ?_ ?_
    · rw [primary, noExpr]
      simp
    · rintro ⟨token, reads, -⟩
      rw [reads.ahead] at ahead
      cases ahead
  | cons token rest =>
    have current : pass.current = token := Pass.current_of_ahead ahead
    have reads := Pass.reads_advance ahead
    rw [primary, current]
    constructor
    · intro done
      split at done
      · rename_i expr' isExpr
        cases done
        exact ⟨token, reads, isExpr⟩
      · cases done
    · rintro ⟨token', reads', isExpr⟩
      have same : pass.current = token' := Pass.current_of_ahead reads'.ahead
      rw [← current, same, isExpr, reads'.eq_advance]

theorem primary_eq_error_iff {pass next : Pass} {fault : Fault} :
    primary pass = .error fault next ↔
      next = pass ∧ ∃ cause, pass.current.primary = .error cause ∧
        fault = pass.current.fault cause := by
  rw [primary]
  cases outcome : pass.current.primary with
  | ok expr => simp
  | error cause => simp [eq_comm, and_comm]

theorem progress_primary : Progress (· ∈ Kind.inner) primary := by
  refine fun pass => ⟨⟨fun done => ?_, fun failed => ?_⟩, fun done => ?_⟩
  · obtain ⟨token, reads, isExpr⟩ := primary_eq_ok_iff.mp done
    exact Pass.Moves.of_token reads (kind_mem_inner_of_primary isExpr)
  · obtain ⟨rfl, cause, notExpr, rfl⟩ := primary_eq_error_iff.mp failed
    exact ⟨Pass.Moves.refl _, cause, fatal_of_primary notExpr, rfl⟩
  · obtain ⟨token, reads, -⟩ := primary_eq_ok_iff.mp done
    exact reads.left_lt (List.cons_ne_nil token [])

/-! ### Lists -/

/-- Reports at the current token that a list is too long, if `count` items have been read and
another one would be the first too many. -/
def noteArity (what : String) (count : Nat) : Reading Unit := fun pass =>
  if count = maxArity then .ok () (pass.report pass.current (.tooMany what maxArity))
  else .ok () pass

theorem forward_noteArity (allowed : Kind → Prop) (what : String) (count : Nat) :
    Forward allowed (noteArity what count) := by
  refine fun pass => ⟨fun done => ?_, fun failed => ?_⟩
  · unfold noteArity at done
    split at done
    · cases done
      exact Pass.Moves.of_report (Pass.reads_report pass pass.current _)
    · cases done
      exact Pass.Moves.refl pass
  · unfold noteArity at failed
    split at failed <;> cases failed

end Reading

namespace Recursion

open Reading

/-- Items with commas between them, from the number of those that have been read before. -/
def items {α : Type} (what : String) (item : Reading α) (forward : item.Forward (· ∈ Kind.inner)) :
    Recursion Nat (List α) where
  Sound := Outcome.Forward (· ∈ Kind.inner)
  body again _ count := do
    noteArity what count
    let first ← item
    match ← take? [.mark .comma] with
    | none => return [first]
    | some _ => return first :: (← again (count + 1))
  sound_fail := (progress_fail fun _ => rfl).toForward
  sound again isSound count := by
    refine (forward_noteArity _ what count).bind fun _ => forward.bind fun first =>
      (forward_take? (by decide)).bind fun comma => ?_
    cases comma with
    | none => exact forward_pure _
    | some _ => exact Forward.bind (isSound (count + 1)) fun _ => forward_pure _
  guarded again _ again' _ count pass agree := by
    refine bind_congr fun _ middle noted => bind_congr fun first last done =>
      bind_congr fun comma next taken => ?_
    cases comma with
    | none => rfl
    | some _ =>
      have moved := ((forward_noteArity (· ∈ Kind.inner) what count).done noted).left_le
      have moved' := (forward.done done).left_le
      have moved'' := left_lt_of_take? taken
      exact bind_congr_left (agree (count + 1) next (by omega))

end Recursion

namespace Reading

/-- Reads items with commas between them, of which `count` have been read before. -/
def items {α : Type} (what : String) (item : Reading α) (forward : item.Forward (· ∈ Kind.inner)) :
    (count : Nat) → Reading (List α) :=
  (Recursion.items what item forward).read

/-- Reads a list of items up to the em-dash that closes it. The list may be empty. -/
def listed {α : Type} (what : String) (item : Reading α) (forward : item.Forward (· ∈ Kind.inner)) :
    Reading (List α) := fun pass =>
  if pass.check (.mark .emDash) then .ok [] pass
  else items what item forward 0 pass

section Items

variable {α : Type} (what : String) {item : Reading α} (forward : item.Forward (· ∈ Kind.inner))

theorem items_eq (count : Nat) :
    items what item forward count = (do
      noteArity what count
      let first ← item
      match ← take? [.mark .comma] with
      | none => return [first]
      | some _ => return first :: (← items what item forward (count + 1))) :=
  (Recursion.items what item forward).read_eq count

theorem forward_listed : Forward (· ∈ Kind.inner) (listed what item forward) := by
  intro pass
  unfold listed
  split
  · exact forward_pure [] pass
  · exact (Recursion.items what item forward).sound_read 0 pass

end Items

/-- Reads arguments. -/
def arguments : Reading (List Expr) :=
  listed "arguments" primary progress_primary.toForward

end Reading

/-! ### Operators -/

namespace Recursion

open Reading

/-- The argument lists behind a callee. -/
def callsOn : Recursion Expr Expr where
  Sound := Outcome.Forward (· ∈ Kind.inner)
  body again _ callee := do
    match ← take? [.mark .emDash] with
    | none => return callee
    | some _ =>
      let arguments ← arguments
      let paren ← expect (.mark .emDash) "Expect '—' after arguments."
      again (.call callee arguments paren)
  sound_fail := (progress_fail fun _ => rfl).toForward
  sound again isSound callee := by
    refine (forward_take? (by decide)).bind fun dash => ?_
    cases dash with
    | none => exact forward_pure callee
    | some _ =>
      exact (forward_listed _ _).bind fun arguments =>
        (progress_expect (by decide)).toForward.bind fun paren => isSound _
  guarded again _ again' _ callee pass agree := by
    refine bind_congr fun dash next taken => ?_
    cases dash with
    | none => rfl
    | some _ =>
      refine bind_congr fun arguments middle listed => bind_congr fun paren last closed => ?_
      have moved := left_lt_of_take? taken
      have moved' := ((forward_listed _ _).done listed).left_le
      have moved'' := (expect_eq_ok_iff.mp closed).1.left_le
      exact agree _ last (by omega)

end Recursion

namespace Reading

/-- Reads the argument lists behind a callee. -/
def callsOn : (callee : Expr) → Reading Expr :=
  Recursion.callsOn.read

theorem callsOn_eq (callee : Expr) :
    callsOn callee = (do
      match ← take? [.mark .emDash] with
      | none => return callee
      | some _ =>
        let arguments ← arguments
        let paren ← expect (.mark .emDash) "Expect '—' after arguments."
        callsOn (.call callee arguments paren)) :=
  Recursion.callsOn.read_eq callee

/-- Reads a primary and the calls on it. -/
def call : Reading Expr := do
  let callee ← primary
  callsOn callee

theorem progress_call : Progress (· ∈ Kind.inner) call :=
  progress_primary.bind Recursion.callsOn.sound_read

end Reading

namespace Recursion

open Reading

/-- A call behind any number of `not`. -/
def unary : Recursion Unit Expr where
  Sound := Outcome.Progress (· ∈ Kind.inner)
  body again _ _ := do
    match ← take? [.word .not] with
    | none => call
    | some operator => return .unary operator (← again ())
  sound_fail := progress_fail fun _ => rfl
  sound again isSound _ := by
    refine (forward_take? (by decide)).bind_progress fun operator => ?_
    cases operator with
    | none => exact progress_call
    | some token => exact Progress.bind (isSound ()) fun right => forward_pure _
  guarded again _ again' _ _ pass agree := by
    refine bind_congr fun operator next taken => ?_
    cases operator with
    | none => rfl
    | some _ => exact bind_congr_left (agree () next (left_lt_of_take? taken))

/-- Operators and further operands behind a first operand, grouped to the left. -/
def chainOn (operators : List Kind) (inside : ∀ kind ∈ operators, kind ∈ Kind.inner)
    (join : Expr → Token → Expr → Expr) (operand : Reading Expr)
    (forward : operand.Forward (· ∈ Kind.inner)) : Recursion Expr Expr where
  Sound := Outcome.Forward (· ∈ Kind.inner)
  body again _ left := do
    match ← take? operators with
    | none => return left
    | some operator =>
      let right ← operand
      again (join left operator right)
  sound_fail := (progress_fail fun _ => rfl).toForward
  sound again isSound left := by
    refine (forward_take? inside).bind fun operator => ?_
    cases operator with
    | none => exact forward_pure left
    | some token => exact forward.bind fun right => isSound _
  guarded again _ again' _ left pass agree := by
    refine bind_congr fun operator next taken => ?_
    cases operator with
    | none => rfl
    | some _ =>
      refine bind_congr fun right last done => ?_
      have moved := left_lt_of_take? taken
      have moved' := (forward.done done).left_le
      exact agree _ last (by omega)

end Recursion

namespace Reading

/-- Reads a call behind any number of `not`. -/
def unary : Reading Expr :=
  Recursion.unary.read ()

theorem unary_eq :
    unary = (do
      match ← take? [.word .not] with
      | none => call
      | some operator => return .unary operator (← unary)) :=
  Recursion.unary.read_eq ()

theorem progress_unary : Progress (· ∈ Kind.inner) unary :=
  Recursion.unary.sound_read ()

section Chains

variable (operators : List Kind) (inside : ∀ kind ∈ operators, kind ∈ Kind.inner)
  (join : Expr → Token → Expr → Expr) (operand : Reading Expr)

/-- Reads operators and further operands behind a first operand, grouped to the left. -/
def chainOn (forward : operand.Forward (· ∈ Kind.inner)) : (left : Expr) → Reading Expr :=
  (Recursion.chainOn operators inside join operand forward).read

/-- Reads operands with operators between them, grouped to the left. -/
def chain (progress : operand.Progress (· ∈ Kind.inner)) : Reading Expr := do
  let left ← operand
  chainOn operators inside join operand progress.toForward left

variable {operators inside join operand}

theorem chainOn_eq (forward : operand.Forward (· ∈ Kind.inner)) (left : Expr) :
    chainOn operators inside join operand forward left = (do
      match ← take? operators with
      | none => return left
      | some operator =>
        let right ← operand
        chainOn operators inside join operand forward (join left operator right)) :=
  (Recursion.chainOn operators inside join operand forward).read_eq left

theorem progress_chain (progress : operand.Progress (· ∈ Kind.inner)) :
    Progress (· ∈ Kind.inner) (chain operators inside join operand progress) :=
  progress.bind (Recursion.chainOn operators inside join operand progress.toForward).sound_read

end Chains

/-- Reads operands compared by `is`, `am` or `are`. -/
def equality : Reading Expr :=
  chain Kind.equalities (by decide) .binary unary progress_unary

theorem progress_equality : Progress (· ∈ Kind.inner) equality :=
  progress_chain progress_unary

/-- Reads operands of `and`. -/
def conjunction : Reading Expr :=
  chain [.word .and] (by decide) .logical equality progress_equality

theorem progress_conjunction : Progress (· ∈ Kind.inner) conjunction :=
  progress_chain progress_equality

/-- Reads operands of `or`. -/
def disjunction : Reading Expr :=
  chain [.word .or] (by decide) .logical conjunction progress_conjunction

theorem progress_disjunction : Progress (· ∈ Kind.inner) disjunction :=
  progress_chain progress_conjunction

/-! ### Assignments -/

/-- The assignment of a value at the token `be`. If the target is no name this is reported, and the
value stands for the whole. -/
def assigned (target : Expr) (be : Token) (value : Expr) : Reading Expr := fun pass =>
  match target with
  | .name token => .ok (.assign token value) pass
  | _ => .ok value (pass.report be .badTarget)

theorem forward_assigned (allowed : Kind → Prop) (target : Expr) (be : Token) (value : Expr) :
    Forward allowed (assigned target be value) := by
  refine fun pass => ⟨fun done => ?_, fun failed => ?_⟩
  · unfold assigned at done
    split at done
    · cases done
      exact Pass.Moves.refl pass
    · cases done
      exact Pass.Moves.of_report (Pass.reads_report pass be _)
  · unfold assigned at failed
    split at failed <;> cases failed

end Reading

namespace Recursion

open Reading

/-- A value behind any number of targets, each with `be` behind it. -/
def assignment : Recursion Unit Expr where
  Sound := Outcome.Progress (· ∈ Kind.inner)
  body again _ _ := do
    let target ← disjunction
    match ← take? [.word .be] with
    | none => return target
    | some be => assigned target be (← again ())
  sound_fail := progress_fail fun _ => rfl
  sound again isSound _ := by
    refine progress_disjunction.bind fun target => (forward_take? (by decide)).bind fun be => ?_
    cases be with
    | none => exact forward_pure target
    | some token =>
      exact Forward.bind (fun pass => (isSound () pass).toForward) fun value =>
        forward_assigned _ target token value
  guarded again _ again' _ _ pass agree := by
    refine bind_congr fun target middle done => bind_congr fun be next taken => ?_
    cases be with
    | none => rfl
    | some _ =>
      have moved := (progress_disjunction.done done).left_le
      have moved' := left_lt_of_take? taken
      exact bind_congr_left (agree () next (by omega))

end Recursion

namespace Reading

/-- Reads a value behind any number of targets, each with `be` behind it. -/
def assignment : Reading Expr :=
  Recursion.assignment.read ()

/-- Reads any expression. -/
def expression : Reading Expr :=
  assignment

theorem expression_eq :
    expression = (do
      let target ← disjunction
      match ← take? [.word .be] with
      | none => return target
      | some be => assigned target be (← expression)) :=
  Recursion.assignment.read_eq ()

theorem progress_expression : Progress (· ∈ Kind.inner) expression :=
  Recursion.assignment.sound_read ()

end Reading

end Parlance
