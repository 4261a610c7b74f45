import T00F.Systems.Progress
import T00F.Systems.Settling

/-!
# Cascades of triggered actions

An action may set properties that trigger others. Where they always have a lower rank, the
machine comes to an end as soon as no client sets anything (`idle_of_undisturbed`), and every
slot then holds what the properties determine (`settles`).
-/

namespace Systems.Triggers

variable {Path Name Service : Type}

/-- Actions only set properties of a lower rank than their own. -/
def Ranked (rank : Name → Nat) (actions : Actions Path Name Service) : Prop :=
  ∀ action ∈ actions, ∀ name value, .setprop name value ∈ action.commands →
    rank name < rank action.name

/-- How many commands there are. -/
def size (actions : Actions Path Name Service) : Nat :=
  (actions.map fun action => action.commands.length).sum

/-- More than the commands that an event of the rank can lead to. -/
def weight (size : Nat) : Nat → Nat
  | 0 => size + 1
  | rank + 1 => size * (1 + weight size rank) + 1

/-- Higher ranks weigh more. -/
theorem weight_mono (size : Nat) : Monotone (weight size) := by
  refine monotone_nat_of_le_succ fun rank => ?_
  induction rank with
  | zero =>
      have once : size ≤ size * (1 + weight size 0) := Nat.le_mul_of_pos_right size (by omega)
      exact Nat.succ_le_succ once
  | succ rank ih => exact Nat.succ_le_succ (Nat.mul_le_mul_left size (Nat.add_le_add_left ih 1))

/-- The commands that a command can lead to, with itself. -/
def Command.cost (rank : Name → Nat) (size : Nat) : Command Path Name Service → Nat
  | .setprop name _ => 1 + weight size (rank name)
  | _ => 1

/-- The commands that can still run. -/
def Machine.potential (rank : Name → Nat) (size : Nat) (machine : Machine Path Name Service) :
    Nat :=
  (machine.events.map fun event => weight size (rank event.name)).sum +
    (machine.running.map (Command.cost rank size)).sum

variable [DecidableEq Name] {actions : Actions Path Name Service} {rank : Name → Nat}

/-- No event leads to more commands at once than there are. -/
theorem length_commandsFor (event : Event Name) :
    (commandsFor actions event).length ≤ size actions := by
  rw [commandsFor, List.length_flatMap, size]
  exact (List.filter_sublist.map _).sum_le_sum fun _ _ => Nat.zero_le _

/-- A command of the event only sets properties of a lower rank. -/
theorem cost_le (ranked : Ranked rank actions) {event : Event Name}
    {command : Command Path Name Service} (member : command ∈ commandsFor actions event)
    {bound : Nat} (below : ∀ lower, lower < rank event.name → weight (size actions) lower ≤ bound) :
    command.cost rank (size actions) ≤ 1 + bound := by
  obtain ⟨action, found, member⟩ := List.mem_flatMap.mp member
  obtain ⟨known, triggers⟩ := List.mem_filter.mp found
  have named := of_decide_eq_true (Bool.and_eq_true_iff.mp triggers).1
  cases command with
  | setprop name value =>
      have lower := ranked action known name value member
      exact Nat.add_le_add_left (below _ (named ▸ lower)) 1
  | _ => exact Nat.le_add_right 1 bound

/-- The commands of an event cost less than the event weighs. -/
theorem cost_commandsFor (ranked : Ranked rank actions) (event : Event Name) :
    ((commandsFor actions event).map (Command.cost rank (size actions))).sum <
      weight (size actions) (rank event.name) := by
  -- No command of the event costs more than this bound.
  have sum (bound : Nat)
      (below : ∀ lower, lower < rank event.name → weight (size actions) lower ≤ bound) :
      ((commandsFor actions event).map (Command.cost rank (size actions))).sum ≤
        size actions * (1 + bound) := by
    refine (List.sum_le_card_nsmul _ (1 + bound) fun cost listed => ?_).trans ?_
    · obtain ⟨command, member, rfl⟩ := List.mem_map.mp listed
      exact cost_le ranked member below
    · rw [List.length_map, smul_eq_mul]
      exact Nat.mul_le_mul_right _ (length_commandsFor event)
  cases level : rank event.name with
  | zero =>
      have total := sum 0 fun lower less => by omega
      rw [weight]
      omega
  | succ lower =>
      have total := sum (weight (size actions) lower) fun other less => weight_mono _ (by omega)
      exact Nat.lt_succ_of_le total

variable [DecidableEq Path] [DecidableEq Service] {script : Script Path Name Service}

/-- Every step of the machine uses up some of what can still run. -/
theorem Work.potential_lt (ranked : Ranked rank script.actions)
    {machine next : Machine Path Name Service} (work : Work script machine next) :
    next.potential rank (size script.actions) < machine.potential rank (size script.actions) := by
  cases work with
  | @execute state events command rest =>
      have queued : ((state.emitted command).map fun event =>
          weight (size script.actions) (rank event.name)).sum <
            command.cost rank (size script.actions) := by
        cases command with
        | setprop name value =>
            cases made : expand state.properties value <;>
              simp [State.emitted, Command.cost, made, Nat.add_comm 1]
        | _ => exact Nat.one_pos
      simp only [Machine.potential, List.map_append, List.sum_append, List.map_cons, List.sum_cons]
      omega
  | @dequeue state event events =>
      have costs := cost_commandsFor ranked event
      simp only [Machine.potential, List.map_cons, List.sum_cons, List.map_nil, List.sum_nil]
      omega

/-- A machine that is not idle can take a step. -/
theorem exists_work {machine : Machine Path Name Service} (busy : ¬ machine.Idle) :
    ∃ next, Work script machine next := by
  obtain ⟨state, events, running⟩ := machine
  cases running with
  | cons command rest => exact ⟨_, .execute⟩
  | nil =>
      cases events with
      | nil => exact absurd ⟨rfl, rfl⟩ busy
      | cons event events => exact ⟨_, .dequeue⟩

/-- An idle machine takes no step of its own. -/
theorem Work.busy {machine next : Machine Path Name Service} (work : Work script machine next) :
    ¬ machine.Idle := by
  rintro ⟨events, running⟩
  cases work with
  | execute => exact List.cons_ne_nil _ _ running
  | dequeue => exact List.cons_ne_nil _ _ events

/-- No client sets a property; a machine with nothing to do stays as it is. -/
def Undisturbed (script : Script Path Name Service) (run : Nat → Machine Path Name Service) :
    Prop :=
  ∀ time, Work script (run time) (run (time + 1)) ∨ (run time).Idle ∧ run (time + 1) = run time

variable {Settable : Name → Prop} {run : Nat → Machine Path Name Service}

/-- A run of the machine alone stays among the reachable states. -/
theorem Undisturbed.reachable (undisturbed : Undisturbed script run)
    (start : (machine script Settable).Reachable (run 0)) (time : Nat) :
    (machine script Settable).Reachable (run time) := by
  induction time with
  | zero => exact start
  | succ time ih =>
      rcases undisturbed time with work | ⟨_, same⟩
      · exact ih.step (.work work)
      · rwa [same]

/-- The machine comes to an end. -/
theorem idle_of_undisturbed (ranked : Ranked rank script.actions)
    (undisturbed : Undisturbed script run) :
    ∃ bound, ∀ time, bound ≤ time → (run time).Idle := by
  have stays : ∀ time, (run time).Idle → (run (time + 1)).Idle := by
    intro time idle
    rcases undisturbed time with work | ⟨_, same⟩
    · exact absurd idle work.busy
    · rwa [same]
  have ends : LeadsTo (fun time => ¬ (run time).Idle) fun time => (run time).Idle := by
    refine leadsTo_of_rank (fun time => (run time).potential rank (size script.actions))
      (fun _ => True) ?_ fun time _ => ⟨time, le_rfl, trivial⟩
    intro time busy
    rcases undisturbed time with work | ⟨idle, _⟩
    · have less := work.potential_lt ranked
      exact (em (run (time + 1)).Idle).imp id fun busy => ⟨busy, less.le, fun _ => less⟩
    · exact absurd idle busy
  by_cases idle : (run 0).Idle
  · exact ⟨0, fun time later => stable stays idle time later⟩
  · obtain ⟨bound, _, idle⟩ := ends 0 idle
    exact ⟨bound, fun time later => stable stays idle time later⟩

/-- Then the slots hold what the values of the properties determine. -/
theorem settles (ranked : Ranked rank script.actions) (undisturbed : Undisturbed script run)
    (start : (machine script Settable).Reachable (run 0)) :
    ∃ bound, ∀ time, bound ≤ time → (run time).Idle ∧
      ∀ name value slot content, Determines script name value slot content → value ≠ "" →
        (∀ other, Settable other → slot ≠ .property other) →
        (run time).state.properties name = value → (run time).state.content slot = content := by
  obtain ⟨bound, idle⟩ := idle_of_undisturbed ranked undisturbed
  refine ⟨bound, fun time later => ⟨idle time later, ?_⟩⟩
  intro name value slot content determines nonempty reserved holds
  obtain ⟨events, running⟩ := idle time later
  refine content_of_settled determines reserved nonempty (undisturbed.reachable start time) ?_
    running holds
  rw [events]
  rfl

/-- The machine can go on without its clients. -/
theorem exists_undisturbed (script : Script Path Name Service)
    (machine : Machine Path Name Service) :
    ∃ run, run 0 = machine ∧ Undisturbed script run := by
  have next : ∀ machine, ∃ next, Work script machine next ∨ machine.Idle ∧ next = machine := by
    intro machine
    by_cases idle : machine.Idle
    · exact ⟨machine, .inr ⟨idle, rfl⟩⟩
    · obtain ⟨next, work⟩ := exists_work idle
      exact ⟨next, .inl work⟩
  choose advance advances using next
  refine ⟨fun time => advance^[time] machine, rfl, fun time => ?_⟩
  beta_reduce
  rw [Function.iterate_succ_apply']
  exact advances _

end Systems.Triggers
