import T00F.Sensors.Multihal
import T00F.Systems.RoundRobin

/-!
# The turns of the queues

`poll` keeps its place in the cycle of the queues from call to call. `step_turn` says how
the steps of the tasks move it, and `dequeued_between` that no queue is served twice while
another one waits, in any run of the writer tasks and of the poller.
-/

namespace T00F.Sensors

open Systems

variable {n : Nat} {registry : Registry}

/-- The first `last` steps of a run of the tasks. -/
structure TaskRun (registry : Registry) (states : Nat → Multihal n) (last : Nat) : Prop where
  reachable : (multihal registry n).Reachable (states 0)
  step : ∀ time < last, Multihal.Step registry (states time) (states (time + 1))

/-- The step takes an event from the queue. -/
def Dequeues (state next : Multihal n) (index : Fin n) : Prop :=
  ∃ event, next.scan.log = state.scan.log ++ [(index.val, event)]

@[simp] theorem reserve_scan (state : Multihal n) (index : Fin n) :
    (state.reserve index).scan = state.scan := by
  unfold Multihal.reserve
  dsimp only
  split
  · rfl
  · rfl

/-- A step leaves the place and the log alone, or it looks at the queue that has its turn,
takes its first event and gives the turn to the next queue. -/
theorem step_turn {state next : Multihal n} (inRange : state.scan.nextReadIndex < n)
    (step : Multihal.Step registry state next) :
    (next.scan.nextReadIndex = state.scan.nextReadIndex ∧ next.scan.log = state.scan.log) ∨
    (next.scan.nextReadIndex = (state.scan.nextReadIndex + 1) % n ∧
      (((state.scan.queues ⟨state.scan.nextReadIndex, inRange⟩).peek = none ∧
          next.scan.log = state.scan.log) ∨
        ∃ event, next.scan.log = state.scan.log ++ [(state.scan.nextReadIndex, event)])) := by
  cases step with
  | lock | space =>
      left
      rw [reserve_scan]
      exact ⟨rfl, rfl⟩
  | scan =>
      right
      refine ⟨Scan.next_index inRange, ?_⟩
      simp only [Multihal.iterate]
      cases first : (state.scan.queues ⟨state.scan.nextReadIndex, inRange⟩).peek with
      | none =>
          rw [Scan.next_empty inRange first]
          exact Or.inl ⟨rfl, rfl⟩
      | some event =>
          rw [Scan.next_event inRange first]
          exact Or.inr ⟨event, rfl⟩
  | poll | write | nothing | events | mark | call | wait | wake | deliver =>
      exact Or.inl ⟨rfl, rfl⟩

/-- A dequeue adds one entry to the log. -/
theorem length_log {state next : Multihal n} {index : Fin n} (dequeues : Dequeues state next index) :
    next.scan.log.length = state.scan.log.length + 1 := by
  obtain ⟨event, log⟩ := dequeues
  rw [log, List.length_append, List.length_singleton]

variable {states : Nat → Multihal n} {last : Nat}

/-- Every state of a run of the poll task is reachable. -/
theorem TaskRun.reaches (run : TaskRun registry states last) {time : Nat} (inside : time ≤ last) :
    (multihal registry n).Reachable (states time) := by
  induction time with
  | zero => exact run.reachable
  | succ time ih => exact (ih (Nat.le_of_succ_le inside)).step (run.step time inside)

/-- The next index to read stays inside the array along a run. -/
theorem TaskRun.index_lt (run : TaskRun registry states last) (positive : 0 < n) {time : Nat}
    (inside : time ≤ last) : (states time).scan.nextReadIndex < n :=
  (accounted_of_reachable (run.reaches inside)).index_lt positive

/-- The place in the cycle is a counter that stays or moves on. -/
theorem TaskRun.turning (run : TaskRun registry states last) (positive : 0 < n) :
    Turning n (fun time => (states time).scan.nextReadIndex) last where
  turn_lt _ inside := run.index_lt positive (Nat.le_of_lt inside)
  next time inside := by
    rcases step_turn (run.index_lt positive (Nat.le_of_lt inside)) (run.step time inside) with
      ⟨stays, _⟩ | ⟨moves, _⟩
    · exact Or.inl stays
    · exact Or.inr ⟨rfl, moves⟩

/-- Only the queue that has its turn is served. -/
theorem TaskRun.visit (run : TaskRun registry states last) {time : Nat} (inside : time < last)
    {index : Fin n} (dequeues : Dequeues (states time) (states (time + 1)) index) :
    Visit n (fun time => (states time).scan.nextReadIndex) index time := by
  have positive : 0 < n := Nat.lt_of_le_of_lt (Nat.zero_le _) index.isLt
  have grown := length_log dequeues
  obtain ⟨event, log⟩ := dequeues
  rcases step_turn (run.index_lt positive (Nat.le_of_lt inside)) (run.step time inside) with
    ⟨_, kept⟩ | ⟨moves, ⟨_, kept⟩ | ⟨other, taken⟩⟩
  · rw [kept] at grown
    omega
  · rw [kept] at grown
    omega
  · rw [taken, List.append_cancel_left_eq, List.cons.injEq, Prod.mk.injEq] at log
    have here := log.1.1
    exact ⟨here, by rw [← here]; exact moves⟩

/-- A queue that has its turn and is not empty is served. -/
theorem TaskRun.dequeues (run : TaskRun registry states last) {time : Nat} (inside : time < last)
    (several : 2 ≤ n) {index : Fin n}
    (visit : Visit n (fun time => (states time).scan.nextReadIndex) index time)
    (nonempty : ((states time).scan.queues index).peek ≠ none) :
    Dequeues (states time) (states (time + 1)) index := by
  obtain ⟨here, next⟩ := visit
  dsimp only at here next
  have inRange := run.index_lt (by omega) (Nat.le_of_lt inside)
  have same : (⟨(states time).scan.nextReadIndex, inRange⟩ : Fin n) = index := Fin.ext here
  rcases step_turn inRange (run.step time inside) with
    ⟨stays, _⟩ | ⟨_, ⟨empty, _⟩ | ⟨event, taken⟩⟩
  · -- With two queues or more the next place is another one.
    rw [stays, here] at next
    rcases Nat.lt_or_ge (index.val + 1) n with inner | wraps
    · rw [Nat.mod_eq_of_lt inner] at next
      omega
    · have wrapped : index.val + 1 = n := by omega
      rw [wrapped, Nat.mod_self] at next
      omega
  · rw [same] at empty
    exact absurd empty nonempty
  · rw [here] at taken
    exact ⟨event, taken⟩

/-- Between two dequeues of one queue, every other queue that is not empty meanwhile is
served. -/
theorem TaskRun.served_between (run : TaskRun registry states last) {first second : Nat}
    (order : first < second) (inside : second < last) {index other : Fin n}
    (different : other ≠ index) (before : Dequeues (states first) (states (first + 1)) index)
    (after : Dequeues (states second) (states (second + 1)) index)
    (nonempty : ∀ time, first < time → time ≤ second →
      ((states time).scan.queues other).peek ≠ none) :
    ∃ time, first < time ∧ time < second ∧
      Dequeues (states time) (states (time + 1)) other := by
  have several : 2 ≤ n := by
    have unequal : other.val ≠ index.val := fun same => different (Fin.ext same)
    have one := index.isLt
    have two := other.isLt
    omega
  have again := run.visit inside after
  obtain ⟨time, low, high, visit⟩ := visited_between (run.turning (by omega)) order
    (Nat.le_of_lt inside) index.isLt other.isLt (fun same => different (Fin.ext same))
    (run.visit (by omega) before) again.1
  exact ⟨time, low, high, run.dequeues (by omega) several visit
    (nonempty time low (Nat.le_of_lt high))⟩

/-- In every run, between two consecutive dequeues of one queue every other queue that is
not empty meanwhile is served, and exactly once if the first queue is not empty either. -/
theorem dequeued_between (run : TaskRun registry states last) {first second : Nat}
    (order : first < second) (inside : second < last) {index other : Fin n}
    (different : other ≠ index) (before : Dequeues (states first) (states (first + 1)) index)
    (after : Dequeues (states second) (states (second + 1)) index)
    (consecutive : ∀ time, first < time → time < second →
      ¬ Dequeues (states time) (states (time + 1)) index)
    (nonempty : ∀ time, first < time → time ≤ second →
      ((states time).scan.queues other).peek ≠ none) :
    (∃ time, first < time ∧ time < second ∧
      Dequeues (states time) (states (time + 1)) other) ∧
    ((∀ time, first < time → time ≤ second →
        ((states time).scan.queues index).peek ≠ none) →
      ∃! time, first < time ∧ time < second ∧
        Dequeues (states time) (states (time + 1)) other) := by
  obtain ⟨time, low, high, served⟩ :=
    run.served_between order inside different before after nonempty
  refine ⟨⟨time, low, high, served⟩, fun waiting => ⟨time, ⟨low, high, served⟩, ?_⟩⟩
  -- Between two dequeues of the other queue this one would be served.
  have once : ∀ early late, first < early → early < late → late < second →
      Dequeues (states early) (states (early + 1)) other →
      ¬ Dequeues (states late) (states (late + 1)) other := by
    intro early late start middle finish one two
    obtain ⟨between, after, before, twice⟩ := run.served_between middle (by omega)
      (Ne.symm different) one two fun time low high => waiting time (by omega) (by omega)
    exact consecutive between (by omega) (by omega) twice
  rintro again ⟨againLow, againHigh, twice⟩
  rcases Nat.lt_trichotomy again time with earlier | same | later
  · exact absurd served (once again time againLow earlier high twice)
  · exact same
  · exact absurd twice (once time again low later againHigh served)

/-- A sub-device delivers two events. -/
def twoEvents (event : SensorsEvent) (state : Multihal 2) (index : Fin 2) : Multihal 2 :=
  let polling := (state.reserve index).setWriter index (.polling (some 0) 36)
  let polled := polling.setWriter index (.polled (some 0) 36 [event, event])
  polled.commit index [event, event]

/-- A call of `poll` begins when both sub-devices have delivered two events. -/
def bothWaiting (event : SensorsEvent) : Multihal 2 :=
  let state := (List.finRange 2).foldl (twoEvents event) (Multihal.opened fun _ _ => event)
  { state with
    scan := { state.scan with empties := 0, data := [] }
    poller := .scanning 5 }

theorem bothWaiting_reachable (event : SensorsEvent) :
    (multihal .empty 2).Reachable (bothWaiting event) := by
  have opened : (multihal .empty 2).Reachable (Multihal.opened fun _ _ => event) :=
    .initial ⟨_, rfl⟩
  have reserved := opened.step (@Multihal.Step.lock 2 _ _ 0 rfl rfl)
  have polling := reserved.step (@Multihal.Step.poll 2 _ _ 0 (some 0) 36 rfl)
  have polled := polling.step (@Multihal.Step.events 2 _ _ 0 0 36 2 rfl (by decide) (by decide))
  have marked := polled.step (@Multihal.Step.mark 2 _ _ 0 (some 0) 36 [event, event] rfl rfl)
  have reserved := marked.step (@Multihal.Step.lock 2 _ _ 1 rfl rfl)
  have polling := reserved.step (@Multihal.Step.poll 2 _ _ 1 (some 0) 36 rfl)
  have polled := polling.step (@Multihal.Step.events 2 _ _ 1 0 36 2 rfl (by decide) (by decide))
  have marked := polled.step (@Multihal.Step.mark 2 _ _ 1 (some 0) 36 [event, event] rfl rfl)
  exact marked.step (@Multihal.Step.call 2 _ _ 5 rfl (by decide))

/-- The states of the scan that follows. -/
def scanStates (time : Nat) : Multihal 2 :=
  (Multihal.iterate .empty)^[time] (bothWaiting ⟨0, 3, 1, 0, 0, 0, []⟩)

theorem scanStates_run : TaskRun .empty scanStates 3 where
  reachable := bothWaiting_reachable _
  step time inside := by
    interval_cases time
    all_goals exact Multihal.Step.scan rfl rfl

theorem dequeued_between_scan :
    (∃ time, 0 < time ∧ time < 2 ∧ Dequeues (scanStates time) (scanStates (time + 1)) 1) ∧
    ((∀ time, 0 < time → time ≤ 2 → ((scanStates time).scan.queues 0).peek ≠ none) →
      ∃! time, 0 < time ∧ time < 2 ∧ Dequeues (scanStates time) (scanStates (time + 1)) 1) := by
  refine dequeued_between scanStates_run (by decide) (by decide) (by decide)
    ⟨_, rfl⟩ ⟨_, rfl⟩ ?_ ?_
  · intro time low high dequeues
    have only : time = 1 := by omega
    subst only
    obtain ⟨event, log⟩ := dequeues
    have places := congrArg (List.map Prod.fst) log
    simp only [List.map_append, List.map_cons, List.map_nil] at places
    exact absurd places (by decide)
  · intro time low high
    interval_cases time
    all_goals exact Option.some_ne_none _

end T00F.Sensors
