import Mathlib

/-!
# While loops

A `while` loop as a function of fuel: `loop guard body fuel state` runs the loop
for at most `fuel` tests of its guard. `loop_invariant` is the rule for partial
correctness, `loop_terminates` the one for total correctness, with a variant that
bounds the number of iterations, and `loop_diverges` the one for loops that never end.
-/

namespace Systems

universe u

variable {State : Type u} {guard : State → Bool} {body : State → State}

/-- Run `body` as long as `guard` holds; `none` if `fuel` tests of the guard do
not suffice. -/
def loop (guard : State → Bool) (body : State → State) : Nat → State → Option State
  | 0, _ => none
  | fuel + 1, state => if guard state then loop guard body fuel (body state) else some state

/-- A loop whose guard fails ends where it is. -/
theorem loop_exit {state : State} (done : guard state = false) (fuel : Nat) :
    loop guard body (fuel + 1) state = some state := by
  rw [loop, done]
  rfl

/-- A loop whose guard holds runs its body once and goes on. -/
theorem loop_step {state : State} (more : guard state = true) (fuel : Nat) :
    loop guard body (fuel + 1) state = loop guard body fuel (body state) := by
  rw [loop, more]
  rfl

/-- More fuel does not change the result. -/
theorem loop_mono {fuel more : Nat} {state final : State}
    (run : loop guard body fuel state = some final) (enough : fuel ≤ more) :
    loop guard body more state = some final := by
  induction fuel generalizing more state with
  | zero => cases run
  | succ fuel ih =>
      obtain ⟨more, rfl⟩ := Nat.exists_eq_add_one_of_ne_zero (show more ≠ 0 by omega)
      cases test : guard state with
      | true =>
          rw [loop_step test] at run ⊢
          exact ih run (by omega)
      | false =>
          rw [loop_exit test] at run ⊢
          exact run

/-- What the body preserves holds when the loop ends, together with the negation
of its guard. -/
theorem loop_invariant {Invariant : State → Prop}
    (preserved : ∀ state, guard state = true → Invariant state → Invariant (body state))
    {fuel : Nat} {state final : State} (initial : Invariant state)
    (run : loop guard body fuel state = some final) : Invariant final ∧ guard final = false := by
  induction fuel generalizing state with
  | zero => cases run
  | succ fuel ih =>
      cases test : guard state with
      | true =>
          rw [loop_step test] at run
          exact ih (preserved state test initial) run
      | false =>
          rw [loop_exit test] at run
          cases run
          exact ⟨initial, test⟩

/-- A loop whose body preserves an invariant and decreases a variant ends within
as many iterations as the variant says. -/
theorem loop_terminates {Invariant : State → Prop} (variant : State → Nat)
    (preserved : ∀ state, guard state = true → Invariant state → Invariant (body state))
    (decreases : ∀ state, guard state = true → Invariant state →
      variant (body state) < variant state)
    {fuel : Nat} {state : State} (initial : Invariant state) (enough : variant state < fuel) :
    ∃ final, loop guard body fuel state = some final ∧ Invariant final ∧ guard final = false := by
  induction fuel generalizing state with
  | zero => omega
  | succ fuel ih =>
      cases test : guard state with
      | true =>
          rw [loop_step test]
          have shorter := decreases state test initial
          exact ih (preserved state test initial) (by omega)
      | false => exact ⟨state, loop_exit test fuel, initial, test⟩

/-- A loop whose guard follows from what its body preserves does not end. -/
theorem loop_diverges {Invariant : State → Prop}
    (continues : ∀ state, Invariant state → guard state = true)
    (preserved : ∀ state, Invariant state → Invariant (body state)) {state : State}
    (initial : Invariant state) (fuel : Nat) : loop guard body fuel state = none := by
  induction fuel generalizing state with
  | zero => rfl
  | succ fuel ih =>
      rw [loop_step (continues state initial)]
      exact ih (preserved state initial)

end Systems
