import T00F.Sensors.Poll
import T00F.Systems.Transition

/-!
# The writer tasks and the poller

`multihal` is the transition system of `writerTask`, one for each sub-device, and of
one thread that calls `sensors_poll_context_t::poll`. What a task does while it
holds `queue_mutex` is a step; the poller takes a step for each iteration of its
loop and keeps the lock in between. Without the lock a writer task calls the poll of
its sub-device, the sub-device writes its events, and the call returns.

`Accounted` is the invariant, `step_accounted` that every step keeps it, and
`reachable_accounted` says what it means for the events and the regions.
-/

namespace T00F.Sensors

open Systems

/-- `SENSOR_EVENT_QUEUE_CAPACITY` -/
def sensorEventQueueCapacity : Nat := 36

/-- Where a writer task is. `out` and `length` are what `getWritableRegion` returned,
and `batch` is what the sub-device had left in the region when its poll returned. -/
inductive Writer where
  | idle
  /-- In `waitForSpace`; `signaled` if a broadcast is pending. -/
  | waiting (signaled : Bool)
  /-- The lock is released, and the poll of the sub-device not yet called. -/
  | reserved (out : Option Nat) (length : Int)
  | polling (out : Option Nat) (length : Int)
  | polled (out : Option Nat) (length : Int) (batch : List SensorsEvent)

/-- Where the thread that calls `poll` is. -/
inductive Poller where
  | idle
  | scanning (maxReads : Nat)
  /-- Waiting for data; `signaled` if a broadcast is pending. -/
  | waiting (maxReads : Nat) (signaled : Bool)

/-- The shared state of the tasks. `batches` and `delivered` record what the
sub-devices have produced and what calls of `poll` have returned. -/
structure Multihal (n : Nat) where
  scan : Scan n
  writers : Fin n → Writer
  poller : Poller
  waitingForData : Bool
  batches : Fin n → List (List SensorsEvent)
  delivered : List SensorsEvent

/-- The effect of a broadcast on a writer task. -/
def Writer.signal : Writer → Writer
  | .waiting _ => .waiting true
  | writer => writer

/-- The effect of a broadcast on the poller. -/
def Poller.signal : Poller → Poller
  | .waiting maxReads _ => .waiting maxReads true
  | poller => poller

/-- The poller holds `queue_mutex` as long as it scans. -/
def Poller.holdsLock : Poller → Bool
  | .scanning _ => true
  | _ => false

namespace Multihal

variable {n : Nat}

def setWriter (state : Multihal n) (index : Fin n) (writer : Writer) : Multihal n :=
  { state with writers := Function.update state.writers index writer }

def setQueue (state : Multihal n) (index : Fin n) (queue : SensorEventQueue SensorsEvent) :
    Multihal n :=
  { state with
    scan := { state.scan with queues := Function.update state.scan.queues index queue } }

/-- The first locked section of `writerTask`, also from within `waitForSpace`. -/
def reserve (state : Multihal n) (index : Fin n) : Multihal n :=
  let queue := state.scan.queues index
  if queue.isFull then state.setWriter index (.waiting false)
  else
    let (length, out) := queue.getWritableRegion sensorEventQueueCapacity
    state.setWriter index (.reserved out length)

/-- The second locked section of `writerTask`. -/
def commit (state : Multihal n) (index : Fin n) (batch : List SensorsEvent) : Multihal n :=
  let state := (state.setQueue index ((state.scan.queues index).markAsWritten batch.length)).setWriter
    index .idle
  { state with
    batches := Function.update state.batches index (state.batches index ++ [batch])
    poller := if state.waitingForData then state.poller.signal else state.poller }

/-- `dequeue` broadcasts to the writer of a full queue. -/
def signalWriter (state : Multihal n) (index : Fin n) : Writer :=
  let queue := state.scan.queues index
  if index = state.scan.nextReadIndex ∧ queue.peek.isSome ∧ queue.isFull then
    (state.writers index).signal
  else state.writers index

/-- An iteration of the loop of `poll`. -/
def iterate (registry : Registry) (state : Multihal n) : Multihal n :=
  { state with
    scan := state.scan.next registry
    writers := state.signalWriter }

/-- The steps of the tasks and of the sub-devices. A wait may end without a broadcast. -/
inductive Step (registry : Registry) : Multihal n → Multihal n → Prop where
  | lock {state index} : state.writers index = .idle → state.poller.holdsLock = false →
      Step registry state (state.reserve index)
  | space {state index signaled} : state.writers index = .waiting signaled →
      state.poller.holdsLock = false → Step registry state (state.reserve index)
  /-- `device->poll(device, buffer, bufferSize)` is called. -/
  | poll {state index out length} : state.writers index = .reserved out length →
      Step registry state (state.setWriter index (.polling out length))
  /-- The sub-device writes an event into the buffer that its poll was given. -/
  | write {state index length} {first slot : Nat} (event : SensorsEvent) :
      state.writers index = .polling (some first) length → first ≤ slot →
      (slot : Int) < first + length →
      Step registry state (state.setQueue index ((state.scan.queues index).write slot event))
  /-- The poll of the sub-device returns zero or an error. -/
  | nothing {state index out length} : state.writers index = .polling out length →
      Step registry state (state.setWriter index .idle)
  /-- The poll of the sub-device returns the number of events. -/
  | events {state index first length} (eventsPolled : Nat) :
      state.writers index = .polling (some first) length → 0 < eventsPolled →
      (eventsPolled : Int) ≤ length →
      Step registry state (state.setWriter index (.polled (some first) length
        ((List.range eventsPolled).map fun place =>
          (state.scan.queues index).mData (first + place))))
  | mark {state index out length batch} : state.writers index = .polled out length batch →
      state.poller.holdsLock = false → Step registry state (state.commit index batch)
  | call {state} (maxReads : Nat) : state.poller = .idle → 1 ≤ maxReads →
      Step registry state
        { state with
          scan := { state.scan with empties := 0, data := [] }
          poller := .scanning maxReads }
  | scan {state maxReads} : state.poller = .scanning maxReads →
      state.scan.more maxReads = true → Step registry state (state.iterate registry)
  | wait {state maxReads} : state.poller = .scanning maxReads →
      state.scan.more maxReads = false → state.scan.data = [] →
      Step registry state
        { state with
          poller := .waiting maxReads false
          waitingForData := true }
  | wake {state maxReads signaled} : state.poller = .waiting maxReads signaled →
      Step registry state
        { state with
          scan := { state.scan with empties := 0 }
          poller := .scanning maxReads
          waitingForData := false }
  /-- The events of the buffer are the caller's. -/
  | deliver {state maxReads} : state.poller = .scanning maxReads →
      state.scan.more maxReads = false → state.scan.data ≠ [] →
      Step registry state
        { state with
          scan := { state.scan with data := [] }
          poller := .idle
          delivered := state.delivered ++ state.scan.data }

/-- The state that `open_sensors` leaves, with whatever `new` finds in memory. -/
def opened (memory : Fin n → Nat → SensorsEvent) : Multihal n where
  scan := Scan.start (fun index => .new sensorEventQueueCapacity (memory index)) 0
  writers _ := .idle
  poller := .idle
  waitingForData := false
  batches _ := []
  delivered := []

end Multihal

/-- The tasks of a context with `n` sub-devices. -/
def multihal (registry : Registry) (n : Nat) : TransitionSystem (Multihal n) where
  Initial state := ∃ memory, state = Multihal.opened memory
  Step := Multihal.Step registry

/-! ## The invariant -/

/-- The region that `getWritableRegion` returned may still be written. -/
def Reserved (queue : SensorEventQueue SensorsEvent) (out : Option Nat) (length : Int) : Prop :=
  ∃ first size : Nat, out = some first ∧ length = size ∧ 0 < size ∧ queue.Region first size

/-- What a writer task relies on while it does not hold the lock. -/
def Writer.Holds (queue : SensorEventQueue SensorsEvent) : Writer → Prop
  | .idle => True
  | .waiting _ => True
  | .reserved out length => Reserved queue out length
  | .polling out length => Reserved queue out length
  | .polled out length batch => Reserved queue out length ∧ batch.length ≤ length ∧
      ∀ first, out = some first →
        (List.range batch.length).map (fun place => queue.mData (first + place)) = batch

/-- The invariant of the tasks. -/
structure Accounted {n : Nat} (registry : Registry) (state : Multihal n) : Prop where
  index_lt : 0 < n → state.scan.nextReadIndex < n
  valid : ∀ index, (state.scan.queues index).Valid
  writers : ∀ index, (state.writers index).Holds (state.scan.queues index)
  queued : ∀ index, state.scan.taken index ++ (state.scan.queues index).readable =
    (state.batches index).flatten
  delivered : state.delivered ++ state.scan.data = handed registry state.scan.log
  buffer : state.poller.holdsLock = false → state.scan.data = []

variable {n : Nat} {registry : Registry} {state : Multihal n}

/-- A signal leaves what a task holds of its queue. -/
theorem Writer.Holds.signal {queue : SensorEventQueue SensorsEvent} {writer : Writer}
    (holds : writer.Holds queue) : writer.signal.Holds queue := by
  cases writer with
  | idle => trivial
  | waiting signaled => trivial
  | reserved out length => exact holds
  | polling out length => exact holds
  | polled out length batch => exact holds

/-- The reader does not disturb a writer. -/
theorem Writer.Holds.dequeue {queue : SensorEventQueue SensorsEvent} {writer : Writer}
    (holds : writer.Holds queue) : writer.Holds queue.dequeue := by
  cases writer with
  | idle => trivial
  | waiting signaled => trivial
  | reserved out length | polling out length =>
      obtain ⟨first, size, found, same, positive, region⟩ := holds
      exact ⟨first, size, found, same, positive, region.dequeue⟩
  | polled out length batch =>
      obtain ⟨⟨first, size, found, same, positive, region⟩, bound, contents⟩ := holds
      refine ⟨⟨first, size, found, same, positive, region.dequeue⟩, bound, ?_⟩
      rw [SensorEventQueue.mData_dequeue]
      exact contents

@[simp] theorem Poller.holdsLock_signal {poller : Poller} :
    poller.signal.holdsLock = poller.holdsLock := by
  cases poller with
  | idle => rfl
  | scanning maxReads => rfl
  | waiting maxReads signaled => rfl

/-- The state after opening accounts for its events. -/
theorem opened_accounted (memory : Fin n → Nat → SensorsEvent) :
    Accounted registry (Multihal.opened memory) where
  index_lt positive := positive
  valid _ := SensorEventQueue.new_valid (by decide) _
  writers _ := trivial
  queued _ := rfl
  delivered := rfl
  buffer _ := rfl

/-- Moving a task to a place that fits its queue keeps the account. -/
theorem Accounted.setWriter (accounted : Accounted registry state) {index : Fin n}
    {writer : Writer} (holds : writer.Holds (state.scan.queues index)) :
    Accounted registry (state.setWriter index writer) where
  index_lt := accounted.index_lt
  valid := accounted.valid
  writers other := by
    by_cases same : other = index
    · rw [same]
      simpa [Multihal.setWriter] using holds
    · simpa [Multihal.setWriter, same] using accounted.writers other
  queued := accounted.queued
  delivered := accounted.delivered
  buffer := accounted.buffer

/-- Reserving a region keeps the account. -/
theorem Accounted.reserve (accounted : Accounted registry state) (index : Fin n) :
    Accounted registry (state.reserve index) := by
  cases full : (state.scan.queues index).isFull with
  | true =>
      rw [Multihal.reserve, full]
      exact accounted.setWriter trivial
  | false =>
      have requested : 0 < sensorEventQueueCapacity := by decide
      obtain ⟨first, length, found, positive, _, region⟩ :=
        SensorEventQueue.getWritableRegion_region (accounted.valid index) full requested
      rw [Multihal.reserve, full, found]
      exact accounted.setWriter ⟨first, length, rfl, rfl, positive, region⟩

/-- Changing a queue outside of what can be read keeps the account. -/
theorem Accounted.setQueue (accounted : Accounted registry state) {index : Fin n}
    {queue : SensorEventQueue SensorsEvent} (valid : queue.Valid)
    (holds : (state.writers index).Holds queue)
    (readable : queue.readable = (state.scan.queues index).readable) :
    Accounted registry (state.setQueue index queue) where
  index_lt := accounted.index_lt
  valid other := by
    by_cases same : other = index
    · rw [same]
      simpa [Multihal.setQueue] using valid
    · simpa [Multihal.setQueue, same] using accounted.valid other
  writers other := by
    by_cases same : other = index
    · rw [same]
      simpa [Multihal.setQueue] using holds
    · simpa [Multihal.setQueue, same] using accounted.writers other
  queued other := by
    by_cases same : other = index
    · rw [same]
      simpa [Multihal.setQueue, Scan.taken, readable] using accounted.queued index
    · simpa [Multihal.setQueue, Scan.taken, same] using accounted.queued other
  delivered := accounted.delivered
  buffer := accounted.buffer

/-- A writer task that calls its sub-device. -/
theorem Accounted.poll (accounted : Accounted registry state) {index : Fin n}
    {out : Option Nat} {length : Int} (reserved : state.writers index = .reserved out length) :
    Accounted registry (state.setWriter index (.polling out length)) := by
  have holds := accounted.writers index
  rw [reserved] at holds
  exact accounted.setWriter holds

/-- A sub-device that writes into the region of its writer task. -/
theorem Accounted.write (accounted : Accounted registry state) {index : Fin n} {length : Int}
    {first slot : Nat} (polling : state.writers index = .polling (some first) length)
    (low : first ≤ slot) (high : (slot : Int) < first + length) (event : SensorsEvent) :
    Accounted registry (state.setQueue index ((state.scan.queues index).write slot event)) := by
  have valid := accounted.valid index
  have holds := accounted.writers index
  rw [polling] at holds
  obtain ⟨_, size, found, same, positive, region⟩ := holds
  cases found
  apply accounted.setQueue
  · exact ⟨valid.start_lt, valid.size_le⟩
  · rw [polling]
    exact ⟨first, size, rfl, same, positive, region.behind, region.inArray, region.free⟩
  · exact region.readable_write valid low (by omega) event

/-- What the sub-device has written is the batch. -/
theorem Accounted.events (accounted : Accounted registry state) {index : Fin n} {length : Int}
    {first : Nat} (polling : state.writers index = .polling (some first) length)
    {eventsPolled : Nat} (bound : (eventsPolled : Int) ≤ length) :
    Accounted registry (state.setWriter index (.polled (some first) length
      ((List.range eventsPolled).map fun place =>
        (state.scan.queues index).mData (first + place)))) := by
  have holds := accounted.writers index
  rw [polling] at holds
  apply accounted.setWriter
  refine ⟨holds, ?_, ?_⟩
  · simpa using bound
  · rintro _ ⟨⟩
    simp

/-- Marking a batch as written makes exactly its events readable. -/
theorem Accounted.commit (accounted : Accounted registry state) {index : Fin n}
    {out : Option Nat} {length : Int} {batch : List SensorsEvent}
    (polled : state.writers index = .polled out length batch) :
    Accounted registry (state.commit index batch) := by
  have holds := accounted.writers index
  rw [polled] at holds
  obtain ⟨⟨first, size, rfl, rfl, _, region⟩, bound, contents⟩ := holds
  have fits : batch.length ≤ size := Int.ofNat_le.mp bound
  constructor
  case index_lt => exact accounted.index_lt
  case delivered => exact accounted.delivered
  case buffer =>
    intro unlocked
    apply accounted.buffer
    rw [← unlocked, Multihal.commit]
    cases waiting : state.waitingForData with
    | true => simp [Multihal.setQueue, Multihal.setWriter, waiting]
    | false => simp [Multihal.setQueue, Multihal.setWriter, waiting]
  case valid =>
    intro other
    by_cases same : other = index
    · rw [same]
      simpa [Multihal.commit, Multihal.setQueue, Multihal.setWriter] using
        SensorEventQueue.markAsWritten_valid (accounted.valid index) region fits
    · simpa [Multihal.commit, Multihal.setQueue, Multihal.setWriter, same] using
        accounted.valid other
  case writers =>
    intro other
    by_cases same : other = index
    · simp [Multihal.commit, Multihal.setQueue, Multihal.setWriter, same, Writer.Holds]
    · simpa [Multihal.commit, Multihal.setQueue, Multihal.setWriter, same] using
        accounted.writers other
  case queued =>
    intro other
    by_cases same : other = index
    · have appended := SensorEventQueue.readable_markAsWritten region fits
      rw [contents first rfl] at appended
      have before := accounted.queued index
      simp only [Scan.taken] at before
      simp [Multihal.commit, Multihal.setQueue, Multihal.setWriter, Scan.taken, same, appended,
        ← before]
    · simpa [Multihal.commit, Multihal.setQueue, Multihal.setWriter, Scan.taken, same] using
        accounted.queued other

/-- An iteration of `poll` hands on the first event of a queue, or nothing. -/
theorem Accounted.iterate (accounted : Accounted registry state) {maxReads : Nat}
    (scanning : state.poller = .scanning maxReads)
    (more : state.scan.more maxReads = true) : Accounted registry (state.iterate registry) := by
  have empties_lt : state.scan.empties < n := by
    simp only [Scan.more, Bool.and_eq_true, decide_eq_true_eq] at more
    exact more.1
  have positive : 0 < n := by omega
  have index_lt := accounted.index_lt positive
  constructor
  case index_lt =>
    intro _
    rw [Multihal.iterate, Scan.next_index index_lt]
    exact Nat.mod_lt _ positive
  case valid =>
    intro index
    rw [Multihal.iterate]
    rcases Scan.next_queue index_lt index with ⟨same, _⟩ | ⟨event, _, taken, _⟩
    · rw [same]
      exact accounted.valid index
    · rw [taken]
      exact SensorEventQueue.dequeue_valid (accounted.valid index)
  case writers =>
    intro index
    have signaled : (state.signalWriter index).Holds (state.scan.queues index) := by
      rw [Multihal.signalWriter]
      split
      · exact (accounted.writers index).signal
      · exact accounted.writers index
    rw [Multihal.iterate]
    rcases Scan.next_queue index_lt index with ⟨same, _⟩ | ⟨event, _, taken, _⟩
    · rw [same]
      exact signaled
    · rw [taken]
      exact signaled.dequeue
  case queued =>
    intro index
    have before := accounted.queued index
    rw [Multihal.iterate]
    rcases Scan.next_queue index_lt index with ⟨same, kept⟩ | ⟨event, first, dequeued, taken⟩
    · rw [same, kept]
      exact before
    · rw [SensorEventQueue.readable_peek (accounted.valid index) first] at before
      rw [dequeued, taken, List.append_assoc]
      exact before
  case delivered => exact Scan.next_data index_lt accounted.delivered
  case buffer =>
    intro unlocked
    rw [Multihal.iterate, scanning] at unlocked
    cases unlocked

/-- Every step of every task keeps the invariant. -/
theorem step_accounted {next : Multihal n} (accounted : Accounted registry state)
    (step : Multihal.Step registry state next) : Accounted registry next := by
  cases step with
  | lock | space => exact accounted.reserve _
  | poll reserved => exact accounted.poll reserved
  | write event polling low high => exact accounted.write polling low high event
  | nothing => exact accounted.setWriter trivial
  | events eventsPolled polling _ bound => exact accounted.events polling bound
  | mark polled => exact accounted.commit polled
  | scan scanning more => exact accounted.iterate scanning more
  | call maxReads idle =>
      have empty : state.scan.data = [] := accounted.buffer (by rw [idle]; rfl)
      have delivered := accounted.delivered
      rw [empty] at delivered
      exact ⟨accounted.index_lt, accounted.valid, accounted.writers, accounted.queued, delivered,
        fun _ => rfl⟩
  | wait _ _ empty =>
      exact ⟨accounted.index_lt, accounted.valid, accounted.writers, accounted.queued,
        accounted.delivered, fun _ => empty⟩
  | wake =>
      refine ⟨accounted.index_lt, accounted.valid, accounted.writers, accounted.queued,
        accounted.delivered, ?_⟩
      intro unlocked
      cases unlocked
  | deliver =>
      refine ⟨accounted.index_lt, accounted.valid, accounted.writers, accounted.queued, ?_,
        fun _ => rfl⟩
      rw [List.append_nil]
      exact accounted.delivered

/-! ## What is handed out -/

/-- The region that a writer offers to its sub-device, until it has marked it. -/
def Writer.offered : Writer → Option (Option Nat × Int)
  | .reserved out length => some (out, length)
  | .polling out length => some (out, length)
  | .polled out length _ => some (out, length)
  | _ => none

/-- A buffer of one slot or more, in the array and clear of the readable slots. -/
def Writable (queue : SensorEventQueue SensorsEvent) (out : Option Nat) (length : Int) : Prop :=
  1 ≤ length ∧ ∃ first, out = some first ∧ first + length ≤ queue.mCapacity ∧
    ∀ slot : Nat, first ≤ slot → slot < first + length →
      ∀ place < queue.mSize, (queue.mStart + place) % queue.mCapacity ≠ slot

/-- A reserved region is one that the task may write. -/
theorem Reserved.writable {queue : SensorEventQueue SensorsEvent} (valid : queue.Valid)
    {out : Option Nat} {length : Int} (reserved : Reserved queue out length) :
    Writable queue out length := by
  obtain ⟨first, size, found, rfl, positive, region⟩ := reserved
  refine ⟨by omega, first, found, ?_, ?_⟩
  · have inArray := region.inArray
    omega
  · intro slot low high place readable
    exact region.outside valid low (by omega) readable

/-- Every reachable state accounts for its events. -/
theorem accounted_of_reachable (reachable : (multihal registry n).Reachable state) :
    Accounted registry state := by
  apply TransitionSystem.invariant _ _ reachable
  · rintro _ ⟨memory, rfl⟩
    exact opened_accounted memory
  · intro _ _ accounted step
    exact step_accounted accounted step

/-- In every reachable state, what was taken from a queue and what it still holds are
the events of the sub-device's batches, in order; what the callers got, and what is in
the buffer of a running call, are the events taken whose copy has a sensor other than
-1; and a region that was offered to a sub-device may be written. -/
theorem reachable_accounted (reachable : (multihal registry n).Reachable state) :
    (∀ index, state.scan.taken index ++ (state.scan.queues index).readable =
      (state.batches index).flatten) ∧
    state.delivered ++ state.scan.data = handed registry state.scan.log ∧
    ∀ index out length, (state.writers index).offered = some (out, length) →
      Writable (state.scan.queues index) out length := by
  have accounted := accounted_of_reachable reachable
  refine ⟨accounted.queued, accounted.delivered, ?_⟩
  intro index out length offered
  have holds := accounted.writers index
  apply Reserved.writable (accounted.valid index)
  cases writer : state.writers index with
  | idle => rw [writer] at offered; cases offered
  | waiting signaled => rw [writer] at offered; cases offered
  | reserved own size | polling own size =>
      rw [writer] at offered holds
      cases offered
      exact holds
  | polled own size batch =>
      rw [writer] at offered holds
      cases offered
      exact holds.1

/-- The writer of one sub-device has marked a first batch and offers a second region. -/
def secondRegion (event : SensorsEvent) : Multihal 1 :=
  let polling := ((Multihal.opened fun _ _ => event).reserve 0).setWriter 0 (.polling (some 0) 36)
  let polled := polling.setWriter 0 (.polled (some 0) 36 [event])
  (polled.commit 0 [event]).reserve 0

theorem secondRegion_reachable (event : SensorsEvent) :
    (multihal .empty 1).Reachable (secondRegion event) := by
  have opened : (multihal .empty 1).Reachable (Multihal.opened fun _ _ => event) :=
    .initial ⟨_, rfl⟩
  have reserved := opened.step (@Multihal.Step.lock 1 _ _ 0 rfl rfl)
  have polling := reserved.step (@Multihal.Step.poll 1 _ _ 0 (some 0) 36 rfl)
  have polled := polling.step (@Multihal.Step.events 1 _ _ 0 0 36 1 rfl (by decide) (by decide))
  have marked := polled.step (@Multihal.Step.mark 1 _ _ 0 (some 0) 36 [event] rfl rfl)
  exact marked.step (@Multihal.Step.lock 1 _ _ 0 rfl rfl)

theorem secondRegion_accounted :
    let state := secondRegion ⟨0, 3, 1, 0, 0, 0, []⟩
    state.scan.taken 0 ++ (state.scan.queues 0).readable = (state.batches 0).flatten ∧
    state.delivered ++ state.scan.data = handed .empty state.scan.log ∧
    Writable (state.scan.queues 0) (some 1) 35 := by
  obtain ⟨queued, delivered, writable⟩ :=
    reachable_accounted (secondRegion_reachable ⟨0, 3, 1, 0, 0, 0, []⟩)
  exact ⟨queued 0, delivered, writable 0 (some 1) 35 rfl⟩

end T00F.Sensors
