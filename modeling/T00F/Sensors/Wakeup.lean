import T00F.Sensors.Multihal

/-!
# No lost wake-ups

Both broadcasts of `multihal.cpp` are conditional: a writer signals the poller only
if `waiting_for_data` is set, and `dequeue` signals the writer only if its queue was
full. `Attended` is what makes that enough, and `reachable_attended` what it says of
a task that waits without a broadcast on its way.
-/

namespace T00F.Sensors

open Systems

variable {n : Nat} {registry : Registry} {state : Multihal n}

/-- A commit wakes the poll thread if it waits for data. -/
theorem Multihal.commit_poller (index : Fin n) (batch : List SensorsEvent) :
    (state.commit index batch).poller =
      if state.waitingForData then state.poller.signal else state.poller := rfl

/-- After a broadcast no writer waits without one on its way. -/
theorem Writer.signal_ne_unsignaled (writer : Writer) : writer.signal ≠ .waiting false := by
  cases writer with
  | idle => simp [signal]
  | waiting signaled => simp [signal]
  | reserved out length => simp [signal]
  | polling out length => simp [signal]
  | polled out length batch => simp [signal]

/-- A signaled poll thread is not waiting without a signal. -/
theorem Poller.signal_ne_unsignaled (poller : Poller) {maxReads : Nat} :
    poller.signal ≠ .waiting maxReads false := by
  cases poller with
  | idle => simp [signal]
  | scanning reads => simp [signal]
  | waiting reads signaled => simp [signal]

/-- A call of `poll` asks for at least one event. -/
def Poller.Reads : Poller → Prop
  | .idle => True
  | .scanning maxReads => 1 ≤ maxReads
  | .waiting maxReads _ => 1 ≤ maxReads

/-- A signal leaves what the poll thread is to read. -/
theorem Poller.Reads.signal {poller : Poller} (reads : poller.Reads) : poller.signal.Reads := by
  cases poller with
  | idle => trivial
  | scanning maxReads => exact reads
  | waiting maxReads signaled => exact reads

/-- The invariant of the waiting tasks. -/
structure Attended (state : Multihal n) : Prop where
  index_lt : 0 < n → state.scan.nextReadIndex < n
  reads : state.poller.Reads
  /-- The poller sets the flag before it waits and clears it afterwards. -/
  flag : ∀ maxReads signaled, state.poller = .waiting maxReads signaled →
    state.waitingForData = true
  /-- It waits for data only if there are none, until it is signaled. -/
  drained : ∀ maxReads, state.poller = .waiting maxReads false →
    ∀ index, (state.scan.queues index).peek = none
  /-- The queues that a scan looked at last, in a row, are empty. -/
  emptied : ∀ maxReads, state.poller = .scanning maxReads → ∀ index : Fin n,
    n ≤ ahead n state.scan.nextReadIndex index + state.scan.empties →
      (state.scan.queues index).peek = none
  /-- A writer waits for space only if there is none, until it is signaled. -/
  full : ∀ index, state.writers index = .waiting false →
    (state.scan.queues index).isFull = true

/-- The state after opening is attended. -/
theorem opened_attended (memory : Fin n → Nat → SensorsEvent) :
    Attended (Multihal.opened memory) where
  index_lt positive := positive
  reads := trivial
  flag := by
    intro maxReads signaled waiting
    cases waiting
  drained := by
    intro maxReads waiting
    cases waiting
  emptied := by
    intro maxReads scanning
    cases scanning
  full := by
    intro index waiting
    cases waiting

/-- A writer that moves on and does not wait, or waits because its queue is full. -/
theorem Attended.setWriter (attended : Attended state) {index : Fin n} {writer : Writer}
    (full : writer = .waiting false → (state.scan.queues index).isFull = true) :
    Attended (state.setWriter index writer) where
  index_lt := attended.index_lt
  reads := attended.reads
  flag := attended.flag
  drained := attended.drained
  emptied := attended.emptied
  full other waiting := by
    by_cases same : other = index
    · rw [same] at waiting ⊢
      exact full (by simpa [Multihal.setWriter] using waiting)
    · exact attended.full other (by simpa [Multihal.setWriter, same] using waiting)

/-- Reserving a region keeps the state attended. -/
theorem Attended.reserve (attended : Attended state) (index : Fin n) :
    Attended (state.reserve index) := by
  cases full : (state.scan.queues index).isFull with
  | true =>
      rw [Multihal.reserve, full]
      exact attended.setWriter fun _ => full
  | false =>
      rw [Multihal.reserve, full]
      apply attended.setWriter
      intro waiting
      cases waiting

/-- A write into the array changes neither which queues are empty nor which are full. -/
theorem Attended.write (attended : Attended state) (index : Fin n) (slot : Nat)
    (event : SensorsEvent) :
    Attended (state.setQueue index ((state.scan.queues index).write slot event)) := by
  have empty : ∀ other, (state.scan.queues other).peek = none →
      ((state.setQueue index ((state.scan.queues index).write slot event)).scan.queues other).peek =
        none := by
    intro other none
    rw [SensorEventQueue.peek_eq_none] at none ⊢
    by_cases same : other = index
    · rw [same] at none ⊢
      simpa [Multihal.setQueue, SensorEventQueue.write] using none
    · simpa [Multihal.setQueue, same] using none
  constructor
  case index_lt => exact attended.index_lt
  case reads => exact attended.reads
  case flag => exact attended.flag
  case drained =>
    intro maxReads waiting other
    exact empty other (attended.drained maxReads waiting other)
  case emptied =>
    intro maxReads scanning other far
    exact empty other (attended.emptied maxReads scanning other far)
  case full =>
    intro other waiting
    have full := attended.full other waiting
    by_cases same : other = index
    · rw [same] at full ⊢
      simpa [Multihal.setQueue, SensorEventQueue.write, SensorEventQueue.isFull] using full
    · simpa [Multihal.setQueue, same] using full

/-- A writer that makes events readable signals the poller if it waits. -/
theorem Attended.commit (attended : Attended state) {index : Fin n}
    (unlocked : state.poller.holdsLock = false) (batch : List SensorsEvent) :
    Attended (state.commit index batch) := by
  have stays : (state.waitingForData = true ∧
        (state.commit index batch).poller = state.poller.signal) ∨
      (state.waitingForData = false ∧ (state.commit index batch).poller = state.poller) := by
    cases flag : state.waitingForData with
    | true => exact Or.inl ⟨rfl, (Multihal.commit_poller index batch).trans (if_pos flag)⟩
    | false =>
        exact Or.inr ⟨rfl, (Multihal.commit_poller index batch).trans (if_neg (by simp [flag]))⟩
  constructor
  case index_lt => exact attended.index_lt
  case reads =>
    rcases stays with ⟨_, same⟩ | ⟨_, same⟩
    · rw [same]
      exact attended.reads.signal
    · rw [same]
      exact attended.reads
  case flag =>
    intro maxReads signaled waiting
    rcases stays with ⟨flag, _⟩ | ⟨_, same⟩
    · exact flag
    · exact attended.flag maxReads signaled (same.symm.trans waiting)
  case drained =>
    intro maxReads waiting
    rcases stays with ⟨_, same⟩ | ⟨clear, same⟩
    · rw [same] at waiting
      exact absurd waiting (Poller.signal_ne_unsignaled _)
    · rw [attended.flag maxReads false (same.symm.trans waiting)] at clear
      cases clear
  case emptied =>
    intro maxReads scanning
    have held : (state.commit index batch).poller.holdsLock = state.poller.holdsLock := by
      rcases stays with ⟨_, same⟩ | ⟨_, same⟩
      · rw [same, Poller.holdsLock_signal]
      · rw [same]
    rw [scanning, unlocked] at held
    cases held
  case full =>
    intro other waiting
    by_cases same : other = index
    · simp [Multihal.commit, Multihal.setQueue, Multihal.setWriter, same] at waiting
    · have before := attended.full other
        (by simpa [Multihal.commit, Multihal.setQueue, Multihal.setWriter, same] using waiting)
      simpa [Multihal.commit, Multihal.setQueue, Multihal.setWriter, same] using before

/-- The poller signals the writer of a queue from which it takes the first event of a
full one. -/
theorem Attended.iterate (attended : Attended state) {maxReads : Nat}
    (scanning : state.poller = .scanning maxReads)
    (more : state.scan.more maxReads = true) : Attended (state.iterate registry) := by
  have empties_lt : state.scan.empties < n := by
    simp only [Scan.more, Bool.and_eq_true, decide_eq_true_eq] at more
    exact more.1
  have positive : 0 < n := by omega
  have index_lt := attended.index_lt positive
  constructor
  case index_lt =>
    intro _
    rw [Multihal.iterate, Scan.next_index index_lt]
    exact Nat.mod_lt _ positive
  case reads => exact attended.reads
  case flag =>
    intro reads signaled waiting
    cases scanning.symm.trans waiting
  case drained =>
    intro reads waiting
    cases scanning.symm.trans waiting
  case emptied =>
    intro reads _
    exact Scan.next_emptied index_lt (attended.emptied maxReads scanning)
  case full =>
    intro index waiting
    have signal : state.signalWriter index = .waiting false := waiting
    rw [Multihal.signalWriter] at signal
    split at signal
    next signaled => exact absurd signal (Writer.signal_ne_unsignaled _)
    next quiet =>
      have full := attended.full index signal
      have kept : (state.scan.next registry).queues index = state.scan.queues index := by
        by_cases here : index.val = state.scan.nextReadIndex
        · rcases Scan.next_queue index_lt index with ⟨same, _⟩ | ⟨event, first, _⟩
          · exact same
          · exact absurd ⟨here, Option.isSome_iff_exists.mpr ⟨event, first⟩, full⟩ quiet
        · exact Scan.next_queue_ne index_lt here
      rw [Multihal.iterate, kept]
      exact full

/-- When a scan ends without an event, every queue is empty. -/
theorem Attended.empty_of_stop (attended : Attended state) {maxReads : Nat}
    (scanning : state.poller = .scanning maxReads)
    (stop : state.scan.more maxReads = false) (nothing : state.scan.data = [])
    (index : Fin n) : (state.scan.queues index).peek = none := by
  have reads := attended.reads
  rw [scanning] at reads
  change 1 ≤ maxReads at reads
  apply attended.emptied maxReads scanning
  simp only [Scan.more, nothing, List.length_nil, Bool.and_eq_false_iff,
    decide_eq_false_iff_not] at stop
  omega

/-- The start of a scan: no queue has been looked at yet. -/
theorem Attended.startScan (attended : Attended state) {maxReads : Nat} (reads : 1 ≤ maxReads)
    (data : List SensorsEvent) (waitingForData : Bool) :
    Attended { state with
      scan := { state.scan with empties := 0, data := data }
      poller := .scanning maxReads
      waitingForData := waitingForData } := by
  constructor
  case index_lt => exact attended.index_lt
  case reads => exact reads
  case flag =>
    intro other signaled waiting
    cases waiting
  case drained =>
    intro other waiting
    cases waiting
  case emptied =>
    intro other _ index far
    have positive : 0 < n := Nat.lt_of_le_of_lt (Nat.zero_le _) index.isLt
    have near := ahead_lt positive state.scan.nextReadIndex index
    dsimp only at far
    omega
  case full => exact attended.full

/-- The poller stops to wait for data. -/
theorem Attended.wait (attended : Attended state) {maxReads : Nat}
    (scanning : state.poller = .scanning maxReads)
    (stop : state.scan.more maxReads = false) (nothing : state.scan.data = []) :
    Attended { state with
      poller := .waiting maxReads false
      waitingForData := true } := by
  have reads := attended.reads
  rw [scanning] at reads
  constructor
  case index_lt => exact attended.index_lt
  case reads => exact reads
  case flag => exact fun _ _ _ => rfl
  case drained => exact fun _ _ index => attended.empty_of_stop scanning stop nothing index
  case emptied =>
    intro other scans
    cases scans
  case full => exact attended.full

/-- A call of `poll` returns. -/
theorem Attended.deliver (attended : Attended state) (delivered : List SensorsEvent) :
    Attended { state with
      scan := { state.scan with data := [] }
      poller := .idle
      delivered := delivered } := by
  constructor
  case index_lt => exact attended.index_lt
  case reads => trivial
  case flag =>
    intro other signaled waiting
    cases waiting
  case drained =>
    intro other waiting
    cases waiting
  case emptied =>
    intro other scans
    cases scans
  case full => exact attended.full

/-- Every step of every task keeps the invariant. -/
theorem step_attended {next : Multihal n} (attended : Attended state)
    (step : Multihal.Step registry state next) : Attended next := by
  cases step with
  | lock | space => exact attended.reserve _
  | write event => exact attended.write _ _ event
  | poll | nothing | events =>
      apply attended.setWriter
      intro waiting
      cases waiting
  | mark _ unlocked => exact attended.commit unlocked _
  | scan scanning more => exact attended.iterate scanning more
  | call maxReads idle positive => exact attended.startScan positive [] _
  | wait scanning stop nothing => exact attended.wait scanning stop nothing
  | wake waiting =>
      have reads := attended.reads
      rw [waiting] at reads
      exact attended.startScan reads _ false
  | deliver => exact attended.deliver _

/-- In every reachable state, if the poller waits for data and no broadcast to it is
pending, `waiting_for_data` is set and every queue is empty; and if a writer waits for
space and no broadcast to it is pending, its queue is full. -/
theorem reachable_attended (reachable : (multihal registry n).Reachable state) :
    (∀ maxReads, state.poller = .waiting maxReads false →
      state.waitingForData = true ∧ ∀ index, (state.scan.queues index).mSize = 0) ∧
    ∀ index, state.writers index = .waiting false →
      (state.scan.queues index).mSize = (state.scan.queues index).mCapacity := by
  have attended : Attended state := by
    apply TransitionSystem.invariant _ _ reachable
    · rintro _ ⟨memory, rfl⟩
      exact opened_attended memory
    · intro _ _ attended step
      exact step_attended attended step
  constructor
  · intro maxReads waiting
    refine ⟨attended.flag maxReads false waiting, fun index => ?_⟩
    exact SensorEventQueue.peek_eq_none.mp (attended.drained maxReads waiting index)
  · intro index waiting
    have full := attended.full index waiting
    rw [SensorEventQueue.isFull, beq_iff_eq] at full
    exact full

/-- A call of `poll` on a sub-device without events waits. -/
def waitingForEvents (event : SensorsEvent) : Multihal 1 :=
  let called := { Multihal.opened (fun _ _ => event) with poller := .scanning 1 }
  { called.iterate .empty with
    poller := .waiting 1 false
    waitingForData := true }

theorem waitingForEvents_reachable (event : SensorsEvent) :
    (multihal .empty 1).Reachable (waitingForEvents event) := by
  have opened : (multihal .empty 1).Reachable (Multihal.opened fun _ _ => event) :=
    .initial ⟨_, rfl⟩
  have scanning := opened.step (.call 1 rfl (le_refl 1))
  have scanned := scanning.step (.scan rfl rfl)
  exact scanned.step (.wait rfl rfl rfl)

theorem waitingForEvents_attended :
    ((waitingForEvents ⟨0, 3, 1, 0, 0, 0, []⟩).scan.queues 0).mSize = 0 :=
  ((reachable_attended (waitingForEvents_reachable ⟨0, 3, 1, 0, 0, 0, []⟩)).1 1 rfl).2 0

end T00F.Sensors
