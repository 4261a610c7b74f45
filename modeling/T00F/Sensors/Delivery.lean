import T00F.Sensors.Wakeup
import T00F.Sensors.Fairness
import T00F.Systems.Progress

/-!
# Every event arrives

Infinite runs of the tasks under a fair scheduler. `pollStep` is what the poller does next,
`Quiet` what a step of anybody else leaves to it, and `turns` counts how far it is from a
queue. `polled_delivered` says that what a sub-device has returned is handed on, and
`waiting_polls` that a task whose queue was full is woken and polls its sub-device again.
-/

namespace T00F.Sensors

open Systems

variable {n : Nat} {registry : Registry} {state next : Multihal n}

namespace Multihal

/-- What the poller does next, with `maxReads` for a new call. -/
def pollStep (registry : Registry) (maxReads : Nat) (state : Multihal n) : Multihal n :=
  match state.poller with
  | .idle =>
      { state with
        scan := { state.scan with empties := 0, data := [] }
        poller := .scanning maxReads }
  | .scanning reads =>
      if state.scan.more reads then state.iterate registry
      else if state.scan.data = [] then
        { state with
          poller := .waiting reads false
          waitingForData := true }
      else
        { state with
          scan := { state.scan with data := [] }
          poller := .idle
          delivered := state.delivered ++ state.scan.data }
  | .waiting reads _ =>
      { state with
        scan := { state.scan with empties := 0 }
        poller := .scanning reads
        waitingForData := false }

/-- A step of the poll thread is a step of the system. -/
theorem pollStep_step (registry : Registry) {maxReads : Nat} (positive : 1 ≤ maxReads)
    (state : Multihal n) : Step registry state (state.pollStep registry maxReads) := by
  rw [pollStep]
  cases place : state.poller with
  | idle => exact .call maxReads place positive
  | waiting reads signaled => exact .wake place
  | scanning reads =>
      dsimp only
      split
      next more => exact .scan place more
      next stop =>
        rw [Bool.not_eq_true] at stop
        split
        next nothing => exact .wait place stop nothing
        next some => exact .deliver place stop some

/-- What a step of a writer task or of a sub-device leaves to the poller. -/
structure Quiet (state next : Multihal n) : Prop where
  index : next.scan.nextReadIndex = state.scan.nextReadIndex
  empties : next.scan.empties = state.scan.empties
  data : next.scan.data = state.scan.data
  log : next.scan.log = state.scan.log
  delivered : next.delivered = state.delivered
  poller : next.poller = state.poller ∨ next.poller = state.poller.signal
  batches : ∀ index, state.batches index <+: next.batches index
  sizes : ∀ index, (state.scan.queues index).mSize ≤ (next.scan.queues index).mSize
  locked : state.poller.holdsLock = true →
    ∀ index, (next.scan.queues index).mSize = (state.scan.queues index).mSize

/-- A step that leaves the scan, the results and the batches is quiet. -/
theorem Quiet.of_scan (scan : next.scan = state.scan) (delivered : next.delivered = state.delivered)
    (poller : next.poller = state.poller) (batches : next.batches = state.batches) :
    Quiet state next where
  index := by rw [scan]
  empties := by rw [scan]
  data := by rw [scan]
  log := by rw [scan]
  delivered := delivered
  poller := .inl poller
  batches index := by rw [batches]
  sizes index := by rw [scan]
  locked _ index := by rw [scan]

/-- Doing nothing is quiet. -/
theorem Quiet.refl (state : Multihal n) : Quiet state state := .of_scan rfl rfl rfl rfl

/-- Reserving a region is quiet. -/
theorem quiet_reserve (state : Multihal n) (index : Fin n) : Quiet state (state.reserve index) := by
  unfold reserve
  dsimp only
  split
  · exact .of_scan rfl rfl rfl rfl
  · exact .of_scan rfl rfl rfl rfl

/-- Writing into a reserved region is quiet. -/
theorem quiet_write (state : Multihal n) (index : Fin n) (slot : Nat) (event : SensorsEvent) :
    Quiet state (state.setQueue index ((state.scan.queues index).write slot event)) := by
  have same : ∀ other, ((state.setQueue index
      ((state.scan.queues index).write slot event)).scan.queues other).mSize =
        (state.scan.queues other).mSize := by
    intro other
    by_cases here : other = index
    · rw [here]
      simp [setQueue, SensorEventQueue.write]
    · simp [setQueue, here]
  exact {
    index := rfl
    empties := rfl
    data := rfl
    log := rfl
    delivered := rfl
    poller := .inl rfl
    batches := fun _ => List.prefix_rfl
    sizes := fun other => (same other).ge
    locked := fun _ => same }

/-- Committing a batch while the poll thread is not in its critical section is quiet. -/
theorem quiet_commit (index : Fin n) (batch : List SensorsEvent)
    (unlocked : state.poller.holdsLock = false) : Quiet state (state.commit index batch) where
  index := rfl
  empties := rfl
  data := rfl
  log := rfl
  delivered := rfl
  poller := by
    rw [commit_poller]
    split
    · exact .inr rfl
    · exact .inl rfl
  batches other := by
    by_cases here : other = index
    · simp [commit, setQueue, setWriter, here]
    · simp [commit, setQueue, setWriter, here]
  sizes other := by
    by_cases here : other = index
    · simp [commit, setQueue, setWriter, SensorEventQueue.markAsWritten, here]
    · simp [commit, setQueue, setWriter, here]
  locked held := by
    rw [unlocked] at held
    cases held

/-- Every step is one of the poller or quiet. -/
theorem step_actor (step : Step registry state next) :
    (∃ maxReads, 1 ≤ maxReads ∧ next = state.pollStep registry maxReads) ∨ Quiet state next := by
  cases step with
  | lock | space => exact .inr (quiet_reserve _ _)
  | write event => exact .inr (quiet_write _ _ _ event)
  | poll | nothing | events => exact .inr (.of_scan rfl rfl rfl rfl)
  | mark _ unlocked => exact .inr (quiet_commit _ _ unlocked)
  | call maxReads place positive => exact .inl ⟨maxReads, positive, by simp [pollStep, place]⟩
  | scan place more => exact .inl ⟨1, le_rfl, by simp [pollStep, place, more]⟩
  | wait place stop nothing => exact .inl ⟨1, le_rfl, by simp [pollStep, place, stop, nothing]⟩
  | wake place => exact .inl ⟨1, le_rfl, by simp [pollStep, place]⟩
  | deliver place stop some => exact .inl ⟨1, le_rfl, by simp [pollStep, place, stop, some]⟩

/-! ## The way to a queue -/

/-- The steps of the poller up to a queue are fewer than this. -/
def turns (state : Multihal n) (index : Fin n) : Nat :=
  3 * ahead n state.scan.nextReadIndex index +
    match state.poller with
    | .scanning maxReads => if state.scan.more maxReads then 0 else 2
    | _ => 1

/-- A quiet step does not change whether the scan goes on. -/
theorem Quiet.more (quiet : Quiet state next) (maxReads : Nat) :
    next.scan.more maxReads = state.scan.more maxReads := by
  rw [Scan.more, Scan.more, quiet.empties, quiet.data]

/-- A quiet step does not change how far a queue is from its turn. -/
theorem Quiet.turns_eq (quiet : Quiet state next) (index : Fin n) :
    next.turns index = state.turns index := by
  rw [turns, turns, quiet.index]
  rcases quiet.poller with same | signaled
  · rw [same]
    cases state.poller with
    | scanning maxReads => simp only [quiet.more]
    | idle | waiting => rfl
  · rw [signaled]
    cases state.poller with
    | scanning maxReads => simp only [Poller.signal, quiet.more]
    | idle | waiting => rfl

/-- A scan that begins tests the first queue. -/
theorem more_start {scan : Scan n} {maxReads : Nat} (positive : 0 < n) (reads : 1 ≤ maxReads)
    (empties : scan.empties = 0) (data : scan.data = []) : scan.more maxReads = true := by
  rw [Scan.more, empties, data]
  simp only [List.length_nil, Bool.and_eq_true, decide_eq_true_eq]
  exact ⟨positive, reads⟩

/-- An iteration takes the first event of the queue, or leaves the queue and comes closer. -/
theorem iterate_turns {index : Fin n} {maxReads : Nat} (inRange : state.scan.nextReadIndex < n)
    (place : state.poller = .scanning maxReads) (more : state.scan.more maxReads = true)
    (nonempty : (state.scan.queues index).peek ≠ none) :
    Dequeues state (state.iterate registry) index ∨
      ((state.iterate registry).scan.queues index = state.scan.queues index ∧
        (state.iterate registry).turns index < state.turns index) := by
  by_cases here : index.val = state.scan.nextReadIndex
  · left
    obtain ⟨event, first⟩ := Option.ne_none_iff_exists'.mp nonempty
    have same : (⟨state.scan.nextReadIndex, inRange⟩ : Fin n) = index := Fin.ext here.symm
    rw [← same] at first
    refine ⟨event, ?_⟩
    rw [iterate, Scan.next_event inRange first, here]
  · right
    refine ⟨Scan.next_queue_ne inRange here, ?_⟩
    have closer := ahead_succ inRange index.isLt here
    have after : (state.iterate registry).turns index ≤
        3 * ahead n ((state.scan.nextReadIndex + 1) % n) index + 2 := by
      rw [turns, iterate, Scan.next_index inRange]
      simp only [place]
      split <;> omega
    have before : state.turns index = 3 * ahead n state.scan.nextReadIndex index := by
      simp only [turns, place, more, if_true, Nat.add_zero]
    omega

/-- Every step of the poller takes the first event of the queue, or leaves it and comes closer. -/
theorem pollStep_turns (accounted : Accounted registry state) (attended : Attended state)
    {index : Fin n} (nonempty : (state.scan.queues index).peek ≠ none) {maxReads : Nat}
    (positive : 1 ≤ maxReads) :
    Dequeues state (state.pollStep registry maxReads) index ∨
      ((state.pollStep registry maxReads).scan.queues index = state.scan.queues index ∧
        (state.pollStep registry maxReads).turns index < state.turns index) := by
  have some : 0 < n := Nat.lt_of_le_of_lt (Nat.zero_le _) index.isLt
  rw [pollStep]
  cases place : state.poller with
  | idle =>
      refine .inr ⟨rfl, ?_⟩
      rw [turns, turns, place]
      simp only [more_start some positive, if_true]
      omega
  | waiting reads signaled =>
      refine .inr ⟨rfl, ?_⟩
      have empty : state.scan.data = [] := accounted.buffer (by rw [place]; rfl)
      have positive := attended.reads
      rw [place] at positive
      have more : ({ state.scan with empties := 0 } : Scan n).more reads = true :=
        more_start some positive rfl empty
      rw [turns, turns, place]
      simp only [more, if_true]
      omega
  | scanning reads =>
      dsimp only
      split
      next more => exact iterate_turns (attended.index_lt some) place more nonempty
      next stop =>
        rw [Bool.not_eq_true] at stop
        split
        next nothing => exact absurd (attended.empty_of_stop place stop nothing index) nonempty
        next =>
          refine .inr ⟨rfl, ?_⟩
          rw [turns, turns, place]
          simp only [stop, Bool.false_eq_true, if_false]
          omega

/-! ## The way to the lock -/

/-- A quiet step inside the critical section does not change the variant of the scan. -/
theorem Quiet.variant_eq (quiet : Quiet state next) (locked : state.poller.holdsLock = true) :
    next.scan.variant = state.scan.variant := by
  rw [Scan.variant, Scan.variant, Scan.pending, Scan.pending, quiet.empties]
  simp only [quiet.locked locked]

/-- A quiet step neither enters nor leaves the critical section. -/
theorem Quiet.holdsLock (quiet : Quiet state next) :
    next.poller.holdsLock = state.poller.holdsLock := by
  rcases quiet.poller with same | signaled
  · rw [same]
  · rw [signaled, Poller.holdsLock_signal]

/-- While the poller holds the lock its steps are those of the scan, until it gives it back. -/
theorem pollStep_locked (registry : Registry) (attended : Attended state)
    (locked : state.poller.holdsLock = true)
    (maxReads : Nat) :
    (state.pollStep registry maxReads).poller.holdsLock = false ∨
      ((state.pollStep registry maxReads).poller.holdsLock = true ∧
        (state.pollStep registry maxReads).scan.variant < state.scan.variant) := by
  rw [pollStep]
  cases place : state.poller with
  | idle | waiting =>
      rw [place] at locked
      cases locked
  | scanning reads =>
      dsimp only
      split
      next more =>
        have some : 0 < n := by
          simp only [Scan.more, Bool.and_eq_true, decide_eq_true_eq] at more
          omega
        refine .inr ⟨?_, Scan.variant_next (attended.index_lt some) more⟩
        rw [iterate, place]
        rfl
      next =>
        split
        · exact .inl rfl
        · exact .inl rfl

/-! ## What grows -/

/-- The poll thread only appends to the log. -/
theorem pollStep_log (registry : Registry) (maxReads : Nat) (state : Multihal n) :
    state.scan.log <+: (state.pollStep registry maxReads).scan.log := by
  rw [pollStep]
  cases place : state.poller with
  | idle | waiting => exact List.prefix_rfl
  | scanning reads =>
      dsimp only
      split
      · rw [iterate]
        dsimp only
        by_cases inRange : state.scan.nextReadIndex < n
        · cases first : (state.scan.queues ⟨state.scan.nextReadIndex, inRange⟩).peek with
          | none =>
              rw [Scan.next_empty inRange first]
          | some event =>
              rw [Scan.next_event inRange first]
              exact List.prefix_append _ _
        · rw [Scan.next, dif_neg inRange]
      · split
        · exact List.prefix_rfl
        · exact List.prefix_rfl

/-- The poll thread commits no batch. -/
theorem pollStep_batches (registry : Registry) (maxReads : Nat) (state : Multihal n) :
    (state.pollStep registry maxReads).batches = state.batches := by
  rw [pollStep]
  cases place : state.poller with
  | idle | waiting => rfl
  | scanning reads =>
      dsimp only
      split
      · rfl
      · split
        · rfl
        · rfl

/-- What was taken from a queue. -/
theorem taken_of_log (index : Fin n) (log : state.scan.log <+: next.scan.log) :
    state.scan.taken index <+: next.scan.taken index :=
  (log.filter _).map _

/-- A dequeue adds one event to those taken. -/
theorem taken_of_dequeues {index : Fin n} (dequeues : Dequeues state next index) :
    (next.scan.taken index).length = (state.scan.taken index).length + 1 := by
  obtain ⟨event, log⟩ := dequeues
  simp [Scan.taken, log]

/-! ## The tasks of one queue -/

/-- What a step of others leaves to a writer task. A broadcast comes with space. -/
structure Apart (index : Fin n) (state next : Multihal n) : Prop where
  writer : next.writers index = state.writers index ∨
    (next.writers index = (state.writers index).signal ∧
      (next.scan.queues index).isFull = false)
  batches : next.batches index = state.batches index
  capacity : (next.scan.queues index).mCapacity = (state.scan.queues index).mCapacity
  size : (next.scan.queues index).mSize ≤ (state.scan.queues index).mSize

/-- A step that leaves a task, its batches and its queue is apart from it. -/
theorem Apart.of_eq {index : Fin n} (writer : next.writers index = state.writers index)
    (batches : next.batches index = state.batches index)
    (queue : next.scan.queues index = state.scan.queues index) : Apart index state next where
  writer := .inl writer
  batches := batches
  capacity := by rw [queue]
  size := by rw [queue]

/-- Moving one task is apart from the others. -/
theorem apart_setWriter {index other : Fin n} (different : index ≠ other) (writer : Writer) :
    Apart index state (state.setWriter other writer) :=
  .of_eq (by simp [setWriter, different]) rfl rfl

/-- Reserving for one task is apart from the others. -/
theorem apart_reserve {index other : Fin n} (different : index ≠ other) :
    Apart index state (state.reserve other) := by
  unfold reserve
  dsimp only
  split
  · exact apart_setWriter different _
  · exact apart_setWriter different _

/-- Committing for one task is apart from the others. -/
theorem apart_commit {index other : Fin n} (different : index ≠ other)
    (batch : List SensorsEvent) : Apart index state (state.commit other batch) := by
  refine .of_eq ?_ ?_ ?_
  · simp [commit, setQueue, setWriter, different]
  · simp [commit, setQueue, setWriter, different]
  · simp [commit, setQueue, setWriter, different]

/-- Writing into the region of any task commits nothing. -/
theorem apart_write (index other : Fin n) (slot : Nat) (event : SensorsEvent) :
    Apart index state (state.setQueue other ((state.scan.queues other).write slot event)) := by
  by_cases here : index = other
  · subst here
    exact ⟨.inl rfl, rfl, by simp [setQueue, SensorEventQueue.write],
      by simp [setQueue, SensorEventQueue.write]⟩
  · exact .of_eq rfl rfl (by simp [setQueue, here])

/-- A dequeue leaves the capacity. -/
theorem capacity_dequeue (queue : SensorEventQueue SensorsEvent) :
    queue.dequeue.mCapacity = queue.mCapacity := by
  unfold SensorEventQueue.dequeue
  split
  · rfl
  · rfl

/-- The poller wakes a writer only when it has made space for it. -/
theorem apart_iterate (inRange : state.scan.nextReadIndex < n) (index : Fin n) :
    Apart index state (state.iterate registry) := by
  rcases @Scan.next_queue _ registry _ inRange index with
    ⟨same, -⟩ | ⟨event, first, taken, -⟩
  · have stays : state.signalWriter index = state.writers index ∨
        (state.scan.queues index).peek ≠ none ∧ index.val = state.scan.nextReadIndex := by
      rw [signalWriter]
      split
      next signaled => exact .inr ⟨Option.isSome_iff_ne_none.mp signaled.2.1, signaled.1⟩
      next => exact .inl rfl
    rcases stays with stays | ⟨nonempty, here⟩
    · exact .of_eq stays rfl same
    · -- The queue of this turn is not left alone if it holds an event.
      obtain ⟨event, first⟩ := Option.ne_none_iff_exists'.mp nonempty
      have place : (⟨state.scan.nextReadIndex, inRange⟩ : Fin n) = index := Fin.ext here.symm
      have fewer := SensorEventQueue.mSize_dequeue first
      rw [← place] at first
      rw [Scan.next_event inRange first, place] at same
      dsimp only at same
      rw [Function.update_self] at same
      rw [same] at fewer
      omega
  · have fewer := SensorEventQueue.mSize_dequeue first
    have capacity := capacity_dequeue (state.scan.queues index)
    have after : (state.iterate registry).scan.queues index =
        (state.scan.queues index).dequeue := taken
    refine ⟨?_, rfl, by rw [after, capacity], by rw [after]; omega⟩
    rw [after]
    change state.signalWriter index = _ ∨ state.signalWriter index = _ ∧ _
    rw [signalWriter]
    split
    next signaled =>
      have full := signaled.2.2
      simp only [SensorEventQueue.isFull, beq_iff_eq] at full
      refine .inr ⟨rfl, ?_⟩
      simp only [SensorEventQueue.isFull, beq_eq_false_iff_ne]
      omega
    next => exact .inl rfl

/-- A writer task in front of its first locked section. -/
def Reserves : Writer → Prop
  | .idle | .waiting _ => True
  | _ => False

/-- A step is apart from a writer task, or the task takes it. -/
theorem step_writer (attended : Attended state) (step : Step registry state next) (index : Fin n) :
    Apart index state next ∨ (Reserves (state.writers index) ∧ next = state.reserve index) ∨
      (∃ out length, state.writers index = .reserved out length ∧
        next.writers index = .polling out length) ∨
      (∃ out length, state.writers index = .polling out length ∧
        ∀ signaled, next.writers index ≠ .waiting signaled) ∨
      ∃ out length batch, state.writers index = .polled out length batch ∧
        next = state.commit index batch := by
  have positive : 0 < n := Nat.lt_of_le_of_lt (Nat.zero_le _) index.isLt
  cases step with
  | @lock other place | @space other _ place =>
      by_cases here : index = other
      · exact .inr (.inl ⟨by rw [here, place]; trivial, here ▸ rfl⟩)
      · exact .inl (apart_reserve here)
  | @poll other _ _ reserved =>
      by_cases here : index = other
      · exact .inr (.inr (.inl ⟨_, _, here ▸ reserved, by simp [setWriter, here]⟩))
      · exact .inl (apart_setWriter here _)
  | write event => exact .inl (apart_write _ _ _ event)
  | @nothing other _ _ polling | @events other _ _ _ polling =>
      by_cases here : index = other
      · exact .inr (.inr (.inr (.inl ⟨_, _, here ▸ polling, by simp [setWriter, here]⟩)))
      · exact .inl (apart_setWriter here _)
  | @mark other out length batch polled =>
      by_cases here : index = other
      · exact .inr (.inr (.inr (.inr ⟨out, length, batch, here ▸ polled, here ▸ rfl⟩)))
      · exact .inl (apart_commit here batch)
  | scan => exact .inl (apart_iterate (attended.index_lt positive) index)
  | call | wait | wake | deliver => exact .inl (.of_eq rfl rfl rfl)

/-- Where the first locked section leaves a writer task. -/
theorem reserve_writer (state : Multihal n) (index : Fin n) :
    ((state.scan.queues index).isFull = true ∧
        (state.reserve index).writers index = .waiting false) ∨
      ((state.scan.queues index).isFull = false ∧
        ∃ out length, (state.reserve index).writers index = .reserved out length) := by
  cases full : (state.scan.queues index).isFull with
  | true => exact .inl ⟨rfl, by simp [reserve, full, setWriter]⟩
  | false =>
      refine .inr ⟨rfl, ?_⟩
      rw [reserve, full]
      exact ⟨_, _, Function.update_self _ _ _⟩

/-- What is not full stays so as long as only others take steps. -/
theorem Apart.isFull {index : Fin n} (apart : Apart index state next)
    (valid : (state.scan.queues index).Valid) (space : (state.scan.queues index).isFull = false) :
    (next.scan.queues index).isFull = false := by
  have bound := valid.size_le
  have size := apart.size
  simp only [SensorEventQueue.isFull, beq_eq_false_iff_ne, apart.capacity] at space ⊢
  omega

/-- Every reachable state is attended: nobody waits for what is already there. -/
theorem attended_of_reachable (reachable : (multihal registry n).Reachable state) :
    Attended state := by
  apply TransitionSystem.invariant _ _ reachable
  · rintro _ ⟨memory, rfl⟩
    exact opened_attended memory
  · intro _ _ attended step
    exact step_attended attended step

/-- A writer that was sent a broadcast finds space. -/
theorem space_of_signaled (reachable : (multihal registry n).Reachable state) (index : Fin n)
    (signaled : state.writers index = .waiting true) :
    (state.scan.queues index).isFull = false := by
  induction reachable with
  | initial opened =>
      obtain ⟨memory, rfl⟩ := opened
      cases signaled
  | @step state next reachable step ih =>
      rcases step_writer (attended_of_reachable reachable) step index with
        apart | ⟨-, rfl⟩ | ⟨out, length, -, polls⟩ | ⟨out, length, -, moves⟩ |
          ⟨out, length, batch, -, rfl⟩
      · rcases apart.writer with same | ⟨-, space⟩
        · exact apart.isFull ((accounted_of_reachable reachable).valid index)
            (ih (same.symm.trans signaled))
        · exact space
      · rcases reserve_writer state index with ⟨-, waits⟩ | ⟨-, out, length, reserved⟩
        · rw [waits] at signaled
          cases signaled
        · rw [reserved] at signaled
          cases signaled
      · rw [polls] at signaled
        cases signaled
      · exact absurd signaled (moves true)
      · simp [commit, setQueue, setWriter] at signaled

/-- The poller wakes the writer whose full queue it takes an event from. -/
theorem signaled_of_dequeues (attended : Attended state) (step : Step registry state next)
    {index : Fin n} {signaled : Bool} (waits : state.writers index = .waiting signaled)
    (full : (state.scan.queues index).isFull = true) (dequeues : Dequeues state next index) :
    next.writers index = .waiting true := by
  have positive : 0 < n := Nat.lt_of_le_of_lt (Nat.zero_le _) index.isLt
  have longer := length_log dequeues
  cases step with
  | lock | space =>
      rw [reserve_scan] at longer
      omega
  | poll | write | nothing | events | mark | call | wait | wake | deliver =>
      exact absurd longer (Nat.ne_of_lt (Nat.lt_succ_self _))
  | scan =>
      obtain ⟨event, log⟩ := dequeues
      have inRange := attended.index_lt positive
      rw [iterate] at log ⊢
      dsimp only at log ⊢
      cases first : (state.scan.queues ⟨state.scan.nextReadIndex, inRange⟩).peek with
      | none =>
          rw [Scan.next_empty inRange first] at log
          exact absurd log (by simp)
      | some own =>
          rw [Scan.next_event inRange first] at log
          simp only [List.append_cancel_left_eq, List.cons.injEq, Prod.mk.injEq] at log
          have place : (⟨state.scan.nextReadIndex, inRange⟩ : Fin n) = index := Fin.ext log.1.1
          rw [place] at first
          rw [signalWriter, if_pos ⟨log.1.1.symm, by rw [first]; rfl, full⟩, waits]
          rfl

/-! ## Fair runs -/

/-- A writer task that goes on as soon as it gets the lock, or calls its sub-device. -/
def Ready : Writer → Prop
  | .idle | .waiting true | .reserved _ _ | .polled _ _ _ => True
  | _ => False

/-- An infinite run. The poller and its caller go on, unless it waits without a broadcast on its
way; a writer that is ready goes on if the lock is free again and again. -/
structure FairRun (registry : Registry) (states : Nat → Multihal n) : Prop where
  reachable : (multihal registry n).Reachable (states 0)
  step : ∀ time, Step registry (states time) (states (time + 1)) ∨
    states (time + 1) = states time
  poller : ∀ time, ∃ later, time ≤ later ∧
    ((∃ maxReads, 1 ≤ maxReads ∧
        states (later + 1) = (states later).pollStep registry maxReads) ∨
      ∃ maxReads, (states later).poller = .waiting maxReads false)
  writer : ∀ index, LeadsTo (fun _ => True) (fun time => (states time).poller.holdsLock = false) →
    ∀ time, Ready ((states time).writers index) →
      ∃ later, time ≤ later ∧ (states later).writers index ≠ (states time).writers index

namespace FairRun

variable {states : Nat → Multihal n} (run : FairRun registry states)

include run

/-- Every state of a fair run is reachable. -/
theorem reaches (time : Nat) : (multihal registry n).Reachable (states time) := by
  induction time with
  | zero => exact run.reachable
  | succ time ih =>
      rcases run.step time with step | same
      · exact ih.step step
      · rwa [same]

/-- Every state of a fair run accounts for its events. -/
theorem accounted (time : Nat) : Accounted registry (states time) :=
  accounted_of_reachable (run.reaches time)

/-- Every state of a fair run is attended. -/
theorem attended (time : Nat) : Attended (states time) := attended_of_reachable (run.reaches time)

/-- Each step of a fair run is one of the poll thread or a quiet one. -/
theorem actor (time : Nat) :
    (∃ maxReads, 1 ≤ maxReads ∧ states (time + 1) = (states time).pollStep registry maxReads) ∨
      Quiet (states time) (states (time + 1)) := by
  rcases run.step time with step | same
  · exact step_actor step
  · rw [same]
    exact .inr (.refl _)

/-- What `P` excludes an unsignaled poller from, the poller goes on with. -/
theorem acts {P : Nat → Prop}
    (excluded : ∀ time maxReads, (states time).poller = .waiting maxReads false → ¬ P time)
    (time : Nat) : ∃ later, time ≤ later ∧
      ((∃ maxReads, 1 ≤ maxReads ∧
        states (later + 1) = (states later).pollStep registry maxReads) ∨ ¬ P later) := by
  obtain ⟨later, after, acts | ⟨maxReads, waiting⟩⟩ := run.poller time
  · exact ⟨later, after, .inl acts⟩
  · exact ⟨later, after, .inr (excluded later maxReads waiting)⟩

/-- A queue that is not empty is served. -/
theorem served (index : Fin n) :
    LeadsTo (fun time => ((states time).scan.queues index).peek ≠ none)
      fun time => Dequeues (states time) (states (time + 1)) index := by
  refine leadsTo_of_weakFair (fun time => (states time).turns index)
    (fun time => ∃ maxReads, 1 ≤ maxReads ∧
      states (time + 1) = (states time).pollStep registry maxReads) ?_ (run.acts ?_)
  · intro time nonempty
    by_cases acts : ∃ maxReads, 1 ≤ maxReads ∧
        states (time + 1) = (states time).pollStep registry maxReads
    · obtain ⟨maxReads, positive, same⟩ := acts
      rw [same]
      rcases pollStep_turns (run.accounted time) (run.attended time) nonempty positive with
        dequeues | ⟨kept, closer⟩
      · exact .inl dequeues
      · exact .inr ⟨kept ▸ nonempty, closer.le, fun _ => closer⟩
    · have quiet := (run.actor time).resolve_left acts
      refine .inr ⟨?_, (quiet.turns_eq index).le, fun also => absurd also acts⟩
      have grows := quiet.sizes index
      simp only [ne_eq, SensorEventQueue.peek_eq_none] at nonempty ⊢
      omega
  · intro time maxReads waiting nonempty
    exact nonempty ((run.attended time).drained maxReads waiting index)

/-- The lock is free again and again. -/
theorem free : LeadsTo (fun _ => True) fun time => (states time).poller.holdsLock = false := by
  have released : LeadsTo (fun time => (states time).poller.holdsLock = true)
      fun time => (states (time + 1)).poller.holdsLock = false := by
    refine leadsTo_of_weakFair (fun time => (states time).scan.variant)
      (fun time => ∃ maxReads, 1 ≤ maxReads ∧
        states (time + 1) = (states time).pollStep registry maxReads) ?_ (run.acts ?_)
    · intro time locked
      by_cases acts : ∃ maxReads, 1 ≤ maxReads ∧
          states (time + 1) = (states time).pollStep registry maxReads
      · obtain ⟨maxReads, positive, same⟩ := acts
        rw [same]
        rcases pollStep_locked registry (run.attended time) locked maxReads with
          unlocked | ⟨still, fewer⟩
        · exact .inl unlocked
        · exact .inr ⟨still, fewer.le, fun _ => fewer⟩
      · have quiet := (run.actor time).resolve_left acts
        exact .inr ⟨quiet.holdsLock.trans locked, (quiet.variant_eq locked).le,
          fun also => absurd also acts⟩
    · intro time maxReads waiting locked
      rw [waiting] at locked
      cases locked
  intro time _
  cases locked : (states time).poller.holdsLock with
  | false => exact ⟨time, le_rfl, locked⟩
  | true =>
      obtain ⟨later, after, unlocked⟩ := released time locked
      exact ⟨later + 1, by omega, unlocked⟩

/-- The log grows along a fair run. -/
theorem log_prefix {time later : Nat} (after : time ≤ later) :
    (states time).scan.log <+: (states later).scan.log := by
  induction later, after using Nat.le_induction with
  | base => exact List.prefix_rfl
  | succ later _ ih =>
      refine ih.trans ?_
      rcases run.actor later with ⟨maxReads, -, same⟩ | quiet
      · rw [same]
        exact pollStep_log registry maxReads _
      · rw [quiet.log]

/-- The committed batches grow along a fair run. -/
theorem batches_prefix (index : Fin n) {time later : Nat} (after : time ≤ later) :
    (states time).batches index <+: (states later).batches index := by
  induction later, after using Nat.le_induction with
  | base => exact List.prefix_rfl
  | succ later _ ih =>
      refine ih.trans ?_
      rcases run.actor later with ⟨maxReads, -, same⟩ | quiet
      · rw [same, pollStep_batches]
      · exact quiet.batches index

/-- As many events as were marked are taken. -/
theorem taken_length (index : Fin n) {start count : Nat}
    (marked : count ≤ ((states start).batches index).flatten.length) :
    LeadsTo (fun time => start ≤ time)
      fun time => count ≤ ((states time).scan.taken index).length := by
  intro time after
  have grows : ∀ time, ((states time).scan.taken index).length ≤
      ((states (time + 1)).scan.taken index).length :=
    fun time => (taken_of_log index (run.log_prefix (Nat.le_succ time))).length_le
  by_cases enough : count ≤ ((states time).scan.taken index).length
  · exact ⟨time, le_rfl, enough⟩
  refine leadsTo_of_rank
    (P := fun time => start ≤ time ∧ ((states time).scan.taken index).length < count)
    (fun time => count - ((states time).scan.taken index).length)
    (fun time => Dequeues (states time) (states (time + 1)) index) ?_ ?_ time
    ⟨after, Nat.not_le.mp enough⟩
  · rintro time ⟨after, few⟩
    have same := grows time
    by_cases done : count ≤ ((states (time + 1)).scan.taken index).length
    · exact .inl done
    · refine .inr ⟨⟨by omega, by omega⟩, by omega, fun dequeues => ?_⟩
      have more := taken_of_dequeues dequeues
      omega
  · rintro time ⟨after, few⟩
    -- Not all of them are taken, so the queue still holds some.
    refine run.served index time fun empty => ?_
    have queued := (run.accounted time).queued index
    rw [SensorEventQueue.readable_nil empty, List.append_nil] at queued
    have more := (run.batches_prefix index after).flatten.length_le
    rw [queued] at few
    omega

/-- What is marked is taken and handed on. -/
theorem delivered (index : Fin n) (time : Nat) :
    ∃ later, time ≤ later ∧
      ((states time).batches index).flatten <+: (states later).scan.taken index ∧
      (states later).delivered = handed registry (states later).scan.log := by
  obtain ⟨taken, reached, enough⟩ := run.taken_length index le_rfl time (le_refl time)
  obtain ⟨later, after, unlocked⟩ := run.free taken trivial
  refine ⟨later, reached.trans after, ?_, ?_⟩
  · have marked := (run.batches_prefix index (reached.trans after)).flatten
    rw [← (run.accounted later).queued index] at marked
    have length := (taken_of_log index (run.log_prefix after)).length_le
    exact List.prefix_of_prefix_length_le marked (List.prefix_append _ _) (by omega)
  · have delivered := (run.accounted later).delivered
    rwa [(run.accounted later).buffer unlocked, List.append_nil] at delivered

/-- A writer that is ready does not stay where it is. -/
theorem moves (index : Fin n) (writer : Writer) (ready : Ready writer) {P : Nat → Prop}
    (place : ∀ time, P time → (states time).writers index = writer) (time : Nat) :
    ∃ later, time ≤ later ∧ (False ∨ ¬ P later) := by
  by_cases holds : P time
  · obtain ⟨later, after, moved⟩ :=
      run.writer index run.free time (by rw [place time holds]; exact ready)
    refine ⟨later, after, .inr fun also => moved ?_⟩
    rw [place later also, place time holds]
  · exact ⟨time, le_rfl, .inr holds⟩

/-- What a sub-device has returned is marked. -/
theorem marked (index : Fin n) {out : Option Nat} {length : Int} {batch : List SensorsEvent}
    (batches : List (List SensorsEvent)) :
    LeadsTo (fun time => (states time).writers index = .polled out length batch ∧
        (states time).batches index = batches)
      fun time => (states (time + 1)).batches index = batches ++ [batch] := by
  refine leadsTo_of_weakFair (fun _ => 0) (fun _ => False) ?_
    (run.moves index (.polled out length batch) trivial fun _ polled => polled.1)
  rintro time ⟨polled, same⟩
  rcases run.step time with step | idle
  · rcases step_writer (run.attended time) step index with
      apart | ⟨reserves, -⟩ | ⟨_, _, reserved, -⟩ | ⟨_, _, polling, -⟩ |
        ⟨_, _, other, also, commits⟩
    · refine .inr ⟨⟨?_, apart.batches.trans same⟩, le_rfl, False.elim⟩
      rcases apart.writer with stays | ⟨signal, -⟩
      · exact stays.trans polled
      · rw [signal, polled]
        rfl
    · rw [polled] at reserves
      cases reserves
    · rw [polled] at reserved
      cases reserved
    · rw [polled] at polling
      cases polling
    · rw [polled] at also
      cases also
      left
      simp [commits, commit, setQueue, setWriter, same]
  · rw [idle]
    exact .inr ⟨⟨polled, same⟩, le_rfl, False.elim⟩

/-- A writer that was sent a broadcast reserves a region. -/
theorem signaled_reserves (index : Fin n) :
    LeadsTo (fun time => (states time).writers index = .waiting true)
      fun time => ∃ out length, (states (time + 1)).writers index = .reserved out length := by
  refine leadsTo_of_weakFair (fun _ => 0) (fun _ => False) ?_
    (run.moves index (.waiting true) trivial fun _ waits => waits)
  intro time waits
  rcases run.step time with step | idle
  · rcases step_writer (run.attended time) step index with
      apart | ⟨-, reserves⟩ | ⟨_, _, reserved, -⟩ | ⟨_, _, polling, -⟩ | ⟨_, _, _, polled, -⟩
    · refine .inr ⟨?_, le_rfl, False.elim⟩
      rcases apart.writer with stays | ⟨signal, -⟩
      · exact stays.trans waits
      · rw [signal, waits]
        rfl
    · have space := space_of_signaled (run.reaches time) index waits
      rw [reserves]
      rcases reserve_writer (states time) index with ⟨full, -⟩ | ⟨-, reserved⟩
      · rw [full] at space
        cases space
      · exact .inl reserved
    · rw [waits] at reserved
      cases reserved
    · rw [waits] at polling
      cases polling
    · rw [waits] at polled
      cases polled
  · rw [idle]
    exact .inr ⟨waits, le_rfl, False.elim⟩

/-- A writer that has reserved a region polls its sub-device. -/
theorem reserved_polls (index : Fin n) {out : Option Nat} {length : Int} :
    LeadsTo (fun time => (states time).writers index = .reserved out length)
      fun time => (states (time + 1)).writers index = .polling out length := by
  refine leadsTo_of_weakFair (fun _ => 0) (fun _ => False) ?_
    (run.moves index (.reserved out length) trivial fun _ reserved => reserved)
  intro time reserved
  rcases run.step time with step | idle
  · rcases step_writer (run.attended time) step index with
      apart | ⟨reserves, -⟩ | ⟨_, _, also, polls⟩ | ⟨_, _, polling, -⟩ | ⟨_, _, _, polled, -⟩
    · refine .inr ⟨?_, le_rfl, False.elim⟩
      rcases apart.writer with stays | ⟨signal, -⟩
      · exact stays.trans reserved
      · rw [signal, reserved]
        rfl
    · rw [reserved] at reserves
      cases reserves
    · rw [reserved] at also
      cases also
      exact .inl polls
    · rw [reserved] at polling
      cases polling
    · rw [reserved] at polled
      cases polled
  · rw [idle]
    exact .inr ⟨reserved, le_rfl, False.elim⟩

/-- A writer that waits for space is sent a broadcast. -/
theorem waiting_signaled (index : Fin n) :
    LeadsTo (fun time => (states time).writers index = .waiting false)
      fun time => (states (time + 1)).writers index = .waiting true := by
  have quiet : ∀ time, (states time).writers index = .waiting false →
      (states (time + 1)).writers index = .waiting true ∨
        (states (time + 1)).writers index = .waiting false := by
    intro time waits
    rcases run.step time with step | idle
    · rcases step_writer (run.attended time) step index with
        apart | ⟨-, reserves⟩ | ⟨_, _, reserved, -⟩ | ⟨_, _, polling, -⟩ | ⟨_, _, _, polled, -⟩
      · rcases apart.writer with stays | ⟨signal, -⟩
        · exact .inr (stays.trans waits)
        · rw [signal, waits]
          exact .inl rfl
      · rw [reserves]
        rcases reserve_writer (states time) index with ⟨-, again⟩ | ⟨space, -⟩
        · exact .inr again
        · rw [(run.attended time).full index waits] at space
          cases space
      · rw [waits] at reserved
        cases reserved
      · rw [waits] at polling
        cases polling
      · rw [waits] at polled
        cases polled
    · rw [idle]
      exact .inr waits
  intro time waits
  have full := (run.attended time).full index waits
  have nonempty : ((states time).scan.queues index).peek ≠ none := by
    have room := ((run.accounted time).valid index).start_lt
    rw [SensorEventQueue.isFull, beq_iff_eq] at full
    rw [ne_eq, SensorEventQueue.peek_eq_none]
    omega
  -- The poller comes to the queue, and unless it has before it then sends the broadcast.
  obtain ⟨later, after, dequeues⟩ := run.served index time nonempty
  rcases holds_until quiet waits after with ⟨between, low, -, signaled⟩ | still
  · exact ⟨between, low, signaled⟩
  · refine ⟨later, after, ?_⟩
    rcases run.step later with step | idle
    · exact signaled_of_dequeues (run.attended later) step still
        ((run.attended later).full index still) dequeues
    · have longer := length_log dequeues
      rw [idle] at longer
      omega

end FairRun

/-! ## A run -/

/-- The poll thread moves a task at most by waking it. -/
theorem pollStep_writers (registry : Registry) (state : Multihal n) (maxReads : Nat)
    (index : Fin n) :
    (state.pollStep registry maxReads).writers index = state.writers index ∨
      (state.pollStep registry maxReads).writers index = (state.writers index).signal := by
  rw [pollStep]
  cases place : state.poller with
  | idle | waiting => exact .inl rfl
  | scanning reads =>
      dsimp only
      split
      · rw [iterate]
        dsimp only
        rw [signalWriter]
        split
        · exact .inr rfl
        · exact .inl rfl
      · split
        · exact .inl rfl
        · exact .inl rfl

/-- An event of sensor 3. -/
def reading : SensorsEvent := ⟨0, 3, 1, 0, 0, 0, []⟩

/-- The registry that lists sensor 3 of the first module. -/
def listed : Registry := (Registry.empty.assignGlobalHandle 0 3).2

/-- Events that a sub-device returns at once; they fill its queue. -/
def burst : List SensorsEvent := (List.range 36).map fun _ => reading

/-- A run in which the writer waits for space until the poller has taken an event of a burst. -/
def bursting : Nat → Multihal 1
  | 0 => (((opened fun _ _ => reading).reserve 0).setWriter 0 (.polling (some 0) 36)).setWriter 0
      (.polled (some 0) 36 burst)
  | 1 => (bursting 0).commit 0 burst
  | 2 => (bursting 1).reserve 0
  | 3 => (bursting 2).pollStep listed 1
  | 4 => (bursting 3).pollStep listed 1
  | 5 => (bursting 4).pollStep listed 1
  | 6 => (bursting 5).reserve 0
  | 7 => (bursting 6).setWriter 0 (.polling (some 0) 1)
  | time + 8 => (bursting (time + 7)).pollStep listed 1

theorem bursting_reachable : (multihal listed 1).Reachable (bursting 0) := by
  have opened : (multihal listed 1).Reachable (opened fun _ _ => reading) := .initial ⟨_, rfl⟩
  have reserved := opened.step (@Step.lock 1 _ _ 0 rfl rfl)
  have polling := reserved.step (@Step.poll 1 _ _ 0 (some 0) 36 rfl)
  exact polling.step (@Step.events 1 _ _ 0 0 36 36 rfl (by decide) (by decide))

theorem bursting_step (time : Nat) : Step listed (bursting time) (bursting (time + 1)) := by
  rcases time with _ | _ | _ | _ | _ | _ | _ | time
  · exact @Step.mark 1 _ _ 0 (some 0) 36 burst rfl rfl
  · exact .lock rfl rfl
  · exact pollStep_step listed le_rfl _
  · exact pollStep_step listed le_rfl _
  · exact pollStep_step listed le_rfl _
  · exact @Step.space 1 _ _ 0 true rfl rfl
  · exact @Step.poll 1 _ _ 0 (some 0) 1 rfl
  · exact pollStep_step listed le_rfl _

/-- In the end the writer polls its sub-device. -/
theorem bursting_polls (time : Nat) : (bursting (time + 7)).writers 0 = .polling (some 0) 1 := by
  induction time with
  | zero => rfl
  | succ time ih =>
      rcases pollStep_writers listed (bursting (time + 7)) 1 0 with
        same | signal
      · exact same.trans ih
      · refine signal.trans ?_
        rw [ih]
        rfl

theorem bursting_fair : FairRun listed bursting where
  reachable := bursting_reachable
  step time := .inl (bursting_step time)
  poller time := ⟨time + 7, by omega, .inl ⟨1, le_rfl, rfl⟩⟩
  writer index _ time ready := by
    rw [Fin.fin_one_eq_zero index] at ready ⊢
    rcases time with _ | _ | _ | _ | _ | _ | _ | time
    · exact ⟨1, by omega, by rintro ⟨⟩⟩
    · exact ⟨2, by omega, by rintro ⟨⟩⟩
    · exact ready.elim
    · exact ready.elim
    · exact ⟨6, by omega, by rintro ⟨⟩⟩
    · exact ⟨6, by omega, by rintro ⟨⟩⟩
    · exact ⟨7, by omega, by rintro ⟨⟩⟩
    · rw [bursting_polls] at ready
      exact ready.elim

/-! ## Nothing is lost and nobody starves -/

/-- What a sub-device has returned, and everything before it, is taken from its queue in order,
and at that time everything taken has been handed on, but for the events that name no sensor. -/
theorem polled_delivered {states : Nat → Multihal n} (run : FairRun registry states)
    (index : Fin n) {out : Option Nat} {length : Int} {batch : List SensorsEvent} {time : Nat}
    (polled : (states time).writers index = .polled out length batch) :
    ∃ later, time ≤ later ∧
      ((states time).batches index).flatten ++ batch <+: (states later).scan.taken index ∧
      (states later).delivered = handed registry (states later).scan.log := by
  obtain ⟨middle, reached, marked⟩ := run.marked index _ time ⟨polled, rfl⟩
  obtain ⟨later, after, taken, delivered⟩ := run.delivered index (middle + 1)
  rw [marked, List.flatten_concat] at taken
  exact ⟨later, by omega, taken, delivered⟩

theorem polled_delivered_burst : ∃ later, 0 ≤ later ∧
    burst <+: (bursting later).scan.taken 0 ∧
      (bursting later).delivered = handed listed (bursting later).scan.log :=
  polled_delivered bursting_fair 0 rfl

/-- A task that waits for space is sent a broadcast, and polls its sub-device again with a
buffer that is not empty. -/
theorem waiting_polls {states : Nat → Multihal n} (run : FairRun registry states) (index : Fin n)
    {signaled : Bool} {time : Nat} (waits : (states time).writers index = .waiting signaled) :
    ∃ woken later first length, time ≤ woken ∧
      (states woken).writers index = .waiting true ∧ woken ≤ later ∧ 1 ≤ length ∧
        (states later).writers index = .polling (some first) length := by
  have woken : ∃ woken, time ≤ woken ∧ (states woken).writers index = .waiting true := by
    cases signaled with
    | true => exact ⟨time, le_rfl, waits⟩
    | false =>
        obtain ⟨middle, reached, woken⟩ := run.waiting_signaled index time waits
        exact ⟨middle + 1, by omega, woken⟩
  obtain ⟨woken, reached, broadcast⟩ := woken
  obtain ⟨middle, found, out, length, reserved⟩ := run.signaled_reserves index woken broadcast
  obtain ⟨later, after, polls⟩ := run.reserved_polls index (middle + 1) reserved
  have holds := (run.accounted (later + 1)).writers index
  rw [polls] at holds
  obtain ⟨first, size, rfl, rfl, positive, -⟩ := holds
  exact ⟨woken, later + 1, first, size, reached, broadcast, by omega, by omega, polls⟩

theorem waiting_polls_burst : ∃ woken later first length, 2 ≤ woken ∧
    (bursting woken).writers 0 = .waiting true ∧ woken ≤ later ∧ 1 ≤ length ∧
      (bursting later).writers 0 = .polling (some first) length :=
  waiting_polls bursting_fair 0 rfl

end Multihal

end T00F.Sensors
