import T00F.Systems.Triggers

/-!
# Services that exclude each other

A check of a script's text: an action starts a service of a group only after it has stopped
all others of the group. `alone_of_exclusive` says that then no two services of the group are
ever up at once.
-/

namespace Systems.Triggers

variable {Path Name Service : Type} [DecidableEq Service]

/-- No two services of the group are up. -/
def Alone (group : List Service) (started : Service → Bool) : Prop :=
  ∀ one ∈ group, ∀ other ∈ group, started one = true → started other = true → one = other

/-- A service outside of the group, or all others of the group are stopped. -/
def excludes (group stopped : List Service) (service : Service) : Bool :=
  service ∉ group || group.all fun other => other = service || stopped.contains other

/-- Reads the commands with the services that they have stopped so far. -/
def exclusive (group : List Service) : List Service → List (Command Path Name Service) → Bool
  | _, [] => true
  | stopped, .stop service :: rest => exclusive group (service :: stopped) rest
  | stopped, .start service :: rest =>
      excludes group stopped service && exclusive group (stopped.filter (· ≠ service)) rest
  | stopped, .restart service :: rest =>
      excludes group stopped service && exclusive group (stopped.filter (· ≠ service)) rest
  | stopped, .write _ _ :: rest => exclusive group stopped rest
  | stopped, .setprop _ _ :: rest => exclusive group stopped rest
  | stopped, .other _ :: rest => exclusive group stopped rest

variable {group stopped : List Service} {started : Service → Bool} {service : Service}

/-- To stop a service lets no two be up. -/
theorem Alone.stop (alone : Alone group started) (service : Service) :
    Alone group (Function.update started service false) := by
  intro one listed other also up upToo
  rw [Function.update_apply] at up upToo
  split at up
  · exact nomatch up
  · split at upToo
    · exact nomatch upToo
    · exact alone one listed other also up upToo

/-- Nor does the start of one whose others are all stopped. -/
theorem Alone.start (alone : Alone group started) (excluded : excludes group stopped service = true)
    (down : ∀ other ∈ stopped, started other = false) :
    Alone group (Function.update started service true) := by
  -- Any other service of the group is among the stopped ones.
  have only : service ∈ group → ∀ other ∈ group, started other = true → other = service := by
    intro inside other listed up
    simp only [excludes, inside, not_true_eq_false, decide_false, Bool.false_or, List.all_eq_true,
      Bool.or_eq_true, decide_eq_true_eq, List.contains_iff_mem] at excluded
    refine (excluded other listed).resolve_right fun member => ?_
    rw [down other member] at up
    exact nomatch up
  intro one listed other also up upToo
  rw [Function.update_apply] at up upToo
  split at up
  case isTrue same =>
    subst same
    split at upToo
    case isTrue same => exact same.symm
    case isFalse => exact (only listed other also upToo).symm
  case isFalse =>
    split at upToo
    case isTrue same =>
      subst same
      exact only also one listed up
    case isFalse => exact alone one listed other also up upToo

/-- One more service is stopped. -/
theorem down_stop (down : ∀ other ∈ stopped, started other = false) :
    ∀ other ∈ service :: stopped, Function.update started service false other = false := by
  intro other member
  rw [Function.update_apply]
  split
  · rfl
  · exact down other ((List.mem_cons.mp member).resolve_left ‹_›)

/-- The other stopped services stay so. -/
theorem down_start (down : ∀ other ∈ stopped, started other = false) :
    ∀ other ∈ stopped.filter (· ≠ service), Function.update started service true other = false := by
  intro other member
  obtain ⟨member, differ⟩ := List.mem_filter.mp member
  rw [Function.update_of_ne (of_decide_eq_true differ)]
  exact down other member

section Starts

variable (services : List Service) {state : State Path Name Service}

/-- A service that is not declared stays down. -/
theorem Alone.perform_start (alone : Alone group state.started)
    (excluded : excludes group stopped service = true)
    (down : ∀ other ∈ stopped, state.started other = false) :
    Alone group (state.start services service).started := by
  by_cases declared : service ∈ services
  · rw [start_of_declared declared]
    exact alone.start excluded down
  · rwa [start_of_undeclared declared]

/-- The other stopped services stay so, whether or not this one comes up. -/
theorem down_perform_start (down : ∀ other ∈ stopped, state.started other = false) :
    ∀ other ∈ stopped.filter (· ≠ service),
      (state.start services service).started other = false := by
  by_cases declared : service ∈ services
  · rw [start_of_declared declared]
    exact down_start down
  · rw [start_of_undeclared declared]
    exact fun other member => down other (List.mem_of_mem_filter member)

end Starts

variable [DecidableEq Path] [DecidableEq Name]

/-- Commands that pass the check leave no two services of the group up. -/
theorem outlined_of_exclusive {services : List Service}
    {commands : List (Command Path Name Service)}
    (checked : exclusive group stopped commands = true) {state : State Path Name Service}
    (alone : Alone group state.started)
    (down : ∀ service ∈ stopped, state.started service = false) :
    Outlined services (fun state _ => Alone group state.started)
      (fun state => Alone group state.started) commands state := by
  induction commands generalizing stopped state with
  | nil => exact fun _ => alone
  | cons command rest ih =>
      refine fun properties => ⟨alone, ?_⟩
      let current : State Path Name Service := { state with properties := properties }
      have alone : Alone group current.started := alone
      have down : ∀ other ∈ stopped, current.started other = false := down
      cases command with
      | write path value =>
          have same := started_write services current path value
          refine ih checked ?_ fun other listed => (congrFun same other).trans (down other listed)
          exact (congrArg (Alone group) same).mpr alone
      | setprop name value =>
          have same := started_setprop services current name value
          refine ih checked ?_ fun other listed => (congrFun same other).trans (down other listed)
          exact (congrArg (Alone group) same).mpr alone
      | stop service => exact ih checked (alone.stop service) (down_stop down)
      | start service =>
          obtain ⟨excluded, checked⟩ := Bool.and_eq_true_iff.mp checked
          exact ih checked (alone.perform_start services excluded down)
            (down_perform_start services down)
      | restart service =>
          obtain ⟨excluded, checked⟩ := Bool.and_eq_true_iff.mp checked
          exact ih checked (alone.perform_start services excluded down)
            (down_perform_start services down)
      | other line => exact ih checked alone down

/-- Where all actions pass the check, no two services of the group are ever up. -/
theorem alone_of_exclusive {script : Script Path Name Service}
    (checked : ∀ action ∈ script.actions, exclusive group [] action.commands = true)
    {reached : State Path Name Service × List (Command Path Name Service)}
    (reachable : (interleaved script).Reachable reached) : Alone group reached.1.started := by
  have booted : Alone group (State.boot : State Path Name Service).started :=
    fun _ _ _ _ up => nomatch up
  have outlined := outlined_of_reachable booted (fun _ _ alone => alone)
    (fun action member _ alone => outlined_of_exclusive (checked action member) alone
      fun _ listed => absurd listed List.not_mem_nil) reachable
  obtain ⟨state, running⟩ := reached
  cases running with
  | nil => exact outlined state.properties
  | cons command rest => exact (outlined state.properties).1

end Systems.Triggers
