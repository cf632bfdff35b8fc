/-
This file is about readings that call themselves. Such a reading is given by its body, which is told
how to make the calls, and it comes to an end because a call is only made where fewer tokens are
left than before. The body has to show this: it must not notice how a call that is no nearer to the
end would be answered. Then the reading can be defined by recursion on the number of tokens left,
and it satisfies the equation its body stands for.

That all calls return is also said without a measure. A call returns if its outcome is settled by
other calls that return.
-/

import Parlance.Pass.Forward

namespace Parlance

/-- A reading that calls itself from several states. -/
structure Recursion (σ α : Type) where
  /-- What is known of every outcome, whichever state the reading is called from. -/
  Sound : Pass → Outcome α → Prop
  /-- The reading from a state, given how calls are made. -/
  body : (again : σ → Reading α) → (∀ state pass, Sound pass (again state pass)) → σ → Reading α
  sound_fail : ∀ pass,
    Sound pass (Reading.fail (fun token => .noExpression token.value) pass)
  sound : ∀ again isSound state pass, Sound pass (body again isSound state pass)
  /-- Calls are only made where fewer tokens are left. -/
  guarded : ∀ again isSound again' isSound' state pass,
    (∀ state (next : Pass), next.left < pass.left → again state next = again' state next) →
    body again isSound state pass = body again' isSound' state pass

namespace Recursion

variable {σ α : Type} (recursion : Recursion σ α)

/-- The outcome of the reading, and what is known of it. A call that is no nearer to the end is not
made, so it does not matter that it would fail. -/
def outcome (state : σ) (pass : Pass) : {given : Outcome α // recursion.Sound pass given} :=
  let again (state : σ) (next : Pass) : {given : Outcome α // recursion.Sound next given} :=
    if next.left < pass.left then outcome state next
    else ⟨Reading.fail (fun token => .noExpression token.value) next, recursion.sound_fail next⟩
  ⟨recursion.body (fun state next => (again state next).1) (fun state next => (again state next).2)
    state pass, recursion.sound _ _ state pass⟩
termination_by pass.left

/-- Reads from a state. -/
def read (state : σ) : Reading α := fun pass =>
  (recursion.outcome state pass).1

theorem sound_read (state : σ) (pass : Pass) :
    recursion.Sound pass (recursion.read state pass) :=
  (recursion.outcome state pass).2

/-- The reading is its body, with calls to itself. -/
theorem read_eq (state : σ) :
    recursion.read state = recursion.body recursion.read recursion.sound_read state := by
  funext pass
  rw [read, outcome]
  refine recursion.guarded _ _ _ _ state pass fun state next shorter => ?_
  exact congrArg Subtype.val (if_pos shorter)

/-! ### Finitely many rounds -/

/-- Calls that are nested at most a number of rounds deep. -/
def rounds : (count : Nat) →
    {again : σ → Reading α // ∀ state pass, recursion.Sound pass (again state pass)}
  | 0 => ⟨fun _ => Reading.fail fun token => .noExpression token.value,
      fun _ => recursion.sound_fail⟩
  | count + 1 => ⟨recursion.body (rounds count).1 (rounds count).2,
      recursion.sound (rounds count).1 (rounds count).2⟩

/-- As many rounds are enough as there are tokens left. -/
theorem read_eq_rounds {count : Nat} {pass : Pass} (state : σ) (enough : pass.left ≤ count) :
    recursion.read state pass = (recursion.rounds count).1 state pass := by
  induction count generalizing state pass with
  | zero =>
    have inside := pass.inside
    rw [Pass.left] at enough
    omega
  | succ count inductionHypothesis =>
    rw [read_eq]
    refine recursion.guarded _ _ _ _ state pass fun state next shorter => ?_
    exact inductionHypothesis state (by omega)

/-- What is kept by the body and holds of a failure without an expression holds of the reading. -/
theorem read_induction {motive : σ → Pass → Outcome α → Prop}
    (fails : ∀ state pass,
      motive state pass (Reading.fail (fun token => .noExpression token.value) pass))
    (step : ∀ again isSound, (∀ state pass, motive state pass (again state pass)) →
      ∀ state pass, motive state pass (recursion.body again isSound state pass))
    (state : σ) (pass : Pass) : motive state pass (recursion.read state pass) := by
  have each (count : Nat) (state : σ) (pass : Pass) :
      motive state pass ((recursion.rounds count).1 state pass) := by
    induction count generalizing state pass with
    | zero => exact fails state pass
    | succ count inductionHypothesis => exact step _ _ inductionHypothesis state pass
  rw [recursion.read_eq_rounds state (Nat.le_refl pass.left)]
  exact each pass.left state pass

/-- What the body makes of the values of its calls holds of the values of the reading. -/
theorem value_induction {motive : σ → Pass → α → Pass → Prop}
    (step : ∀ again isSound,
      (∀ {state pass value next}, again state pass = .ok value next →
        motive state pass value next) →
      ∀ {state pass value next}, recursion.body again isSound state pass = .ok value next →
        motive state pass value next)
    {state : σ} {pass next : Pass} {value : α} (done : recursion.read state pass = .ok value next) :
    motive state pass value next :=
  recursion.read_induction (motive := fun state pass outcome => ∀ {value next},
      outcome = .ok value next → motive state pass value next)
    (fun _ _ _ _ failed => by cases failed)
    (fun again isSound inductionHypothesis _ _ _ _ done =>
      step again isSound (fun done => inductionHypothesis _ _ done) done)
    state pass done

/-! ### Calls that return -/

/-- A call returns an outcome: whatever other calls would do, its body has this outcome as soon as
some calls, which themselves return, are answered by what they return. There is no other way to
return, so a call that goes on calling itself never does. -/
inductive Returns : σ → Pass → Outcome α → Prop
  | intro {state pass} (calls : σ → Pass → Prop) (answers : σ → Reading α)
    (isSound : ∀ state pass, recursion.Sound pass (answers state pass)) :
    (∀ state next, calls state next → Returns state next (answers state next)) →
    (∀ again isSound', (∀ state next, calls state next → again state next = answers state next) →
      recursion.body again isSound' state pass = recursion.body answers isSound state pass) →
    Returns state pass (recursion.body answers isSound state pass)

/-- Every call returns. -/
theorem returns_read (state : σ) (pass : Pass) :
    recursion.Returns state pass (recursion.read state pass) := by
  induction length : pass.left using Nat.strongRecOn generalizing state pass with
  | ind length inductionHypothesis =>
    subst length
    rw [read_eq]
    refine .intro (fun _ next => next.left < pass.left) recursion.read recursion.sound_read
      (fun state next shorter => inductionHypothesis _ shorter state next rfl) ?_
    exact fun again isSound' agree => recursion.guarded _ _ _ _ state pass agree

variable {recursion}

/-- What a call returns is the outcome of the reading. -/
theorem Returns.eq_read {state : σ} {pass : Pass} {outcome : Outcome α}
    (returns : recursion.Returns state pass outcome) : outcome = recursion.read state pass := by
  induction returns with
  | intro calls answers isSound _ settled inductionHypothesis =>
    rw [read_eq]
    exact (settled _ _ fun state next called => (inductionHypothesis state next called).symm).symm

end Recursion

end Parlance
