import Mathlib

/-!
# Transition systems

States, initial states and steps. `TransitionSystem.invariant` is the rule for
safety: what holds initially and is preserved by every step holds in every
reachable state. `restrict` leaves only the runs whose steps meet a condition, and
`ofActions` those that take only allowed actions.
-/

namespace Systems

universe u v

/-- Initial states and steps. -/
structure TransitionSystem (State : Type u) where
  Initial : State → Prop
  Step : State → State → Prop

namespace TransitionSystem

variable {State : Type u} {system : TransitionSystem State}

/-- The states that a run can reach. -/
inductive Reachable (system : TransitionSystem State) : State → Prop where
  | initial {state} : system.Initial state → Reachable system state
  | step {state next} : Reachable system state → system.Step state next → Reachable system next

/-- An inductive invariant holds in every reachable state. -/
theorem invariant {Invariant : State → Prop}
    (initial : ∀ state, system.Initial state → Invariant state)
    (preserved : ∀ state next, Invariant state → system.Step state next → Invariant next)
    {state : State} (reachable : system.Reachable state) : Invariant state := by
  induction reachable with
  | initial start => exact initial _ start
  | step _ transition ih => exact preserved _ _ ih transition

/-- The runs whose steps all start in states that meet a condition. -/
def restrict (system : TransitionSystem State) (Condition : State → Prop) :
    TransitionSystem State where
  Initial := system.Initial
  Step state next := Condition state ∧ system.Step state next

/-- The runs of a system with named steps that take each action only where it is allowed. -/
def ofActions {Action : Type v} (Initial : State → Prop) (Step : State → Action → State → Prop)
    (Allowed : State → Action → Prop) : TransitionSystem State where
  Initial := Initial
  Step state next := ∃ action, Allowed state action ∧ Step state action next

end TransitionSystem

end Systems
