import T00F.Sensors.EventQueue
import T00F.Sensors.Registry
import T00F.Systems.Loop

/-!
# Scanning the queues

The inner loop of `sensors_poll_context_t::poll`, which takes events from the
queues in turn until the caller's buffer is full or all queues are found empty.
`Scan.next_queue` says what an iteration does to each queue, `Scan.run_sound` and
`Scan.run_ends` that the loop ends and what it leaves behind, `Scan.run_reads_or_empties`
that it then has read something or found all queues empty, and `scan_named_iff` when every event it
hands out names a registered sensor. A call of `poll` waits and scans again as long
as it has read nothing, so what it hands out is what its last scan does.
-/

namespace T00F.Sensors

open Systems

variable {n : Nat}

/-- The members of the context and the locals of `poll` that the loop changes. `data`
holds the `eventsRead` events of the caller's buffer, `log` the events taken so far,
each with the index of its queue. -/
structure Scan (n : Nat) where
  queues : Fin n → SensorEventQueue SensorsEvent
  nextReadIndex : Nat
  empties : Nat
  data : List SensorsEvent
  log : List (Nat × SensorsEvent)

namespace Scan

/-- `empties < queueCount && eventsRead < maxReads` -/
def more (maxReads : Nat) (scan : Scan n) : Bool :=
  decide (scan.empties < n) && decide (scan.data.length < maxReads)

/-- One iteration. An index that is out of range would make `at` throw. -/
def next (registry : Registry) (scan : Scan n) : Scan n :=
  if inRange : scan.nextReadIndex < n then
    let queue := scan.queues ⟨scan.nextReadIndex, inRange⟩
    match queue.peek with
    | none =>
        { scan with
          empties := scan.empties + 1
          nextReadIndex := (scan.nextReadIndex + 1) % n }
    | some event =>
        let copy := copyEventRemapHandle registry event scan.nextReadIndex
        { queues := Function.update scan.queues ⟨scan.nextReadIndex, inRange⟩ queue.dequeue
          nextReadIndex := (scan.nextReadIndex + 1) % n
          empties := 0
          data := if copy.sensor = -1 then scan.data else scan.data ++ [copy]
          log := scan.log ++ [(scan.nextReadIndex, event)] }
  else scan

/-- The loop; `none` if it takes more than `fuel` tests of its condition. -/
def run (registry : Registry) (maxReads fuel : Nat) (scan : Scan n) : Option (Scan n) :=
  loop (more maxReads) (next registry) fuel scan

/-- The events taken from a queue. -/
def taken (scan : Scan n) (index : Fin n) : List SensorsEvent :=
  (scan.log.filter fun entry => entry.1 = index.val).map Prod.snd

end Scan

/-- The events that are handed to the caller: the copies whose sensor is not -1. -/
def handed (registry : Registry) (log : List (Nat × SensorsEvent)) : List SensorsEvent :=
  (log.map fun entry => copyEventRemapHandle registry entry.2 entry.1).filter
    fun copy => copy.sensor ≠ -1

namespace Scan

variable {registry : Registry} {scan : Scan n}

/-- At an empty queue the scan counts it and goes on. -/
theorem next_empty (inRange : scan.nextReadIndex < n)
    (empty : (scan.queues ⟨scan.nextReadIndex, inRange⟩).peek = none) :
    scan.next registry =
      { scan with
        empties := scan.empties + 1
        nextReadIndex := (scan.nextReadIndex + 1) % n } := by
  rw [next, dif_pos inRange]
  simp only [empty]

/-- At a queue with an event the scan takes it. -/
theorem next_event (inRange : scan.nextReadIndex < n) {event : SensorsEvent}
    (first : (scan.queues ⟨scan.nextReadIndex, inRange⟩).peek = some event) :
    scan.next registry =
      { queues := Function.update scan.queues ⟨scan.nextReadIndex, inRange⟩
          (scan.queues ⟨scan.nextReadIndex, inRange⟩).dequeue
        nextReadIndex := (scan.nextReadIndex + 1) % n
        empties := 0
        data :=
          if (copyEventRemapHandle registry event scan.nextReadIndex).sensor = -1 then scan.data
          else scan.data ++ [copyEventRemapHandle registry event scan.nextReadIndex]
        log := scan.log ++ [(scan.nextReadIndex, event)] } := by
  rw [next, dif_pos inRange]
  simp only [first]

/-- Every step of the scan goes to the next queue. -/
theorem next_index (inRange : scan.nextReadIndex < n) :
    (scan.next registry).nextReadIndex = (scan.nextReadIndex + 1) % n := by
  cases first : (scan.queues ⟨scan.nextReadIndex, inRange⟩).peek with
  | none => rw [next_empty inRange first]
  | some event => rw [next_event inRange first]

/-- An iteration touches no queue but the one that it reads. -/
theorem next_queue_ne (inRange : scan.nextReadIndex < n) {index : Fin n}
    (other : index.val ≠ scan.nextReadIndex) :
    (scan.next registry).queues index = scan.queues index := by
  cases first : (scan.queues ⟨scan.nextReadIndex, inRange⟩).peek with
  | none => rw [next_empty inRange first]
  | some event =>
      rw [next_event inRange first]
      exact Function.update_of_ne (fun same => other (Fin.ext_iff.mp same)) _ _

/-- An iteration leaves a queue alone or takes its first event. -/
theorem next_queue (inRange : scan.nextReadIndex < n) (index : Fin n) :
    ((scan.next registry).queues index = scan.queues index ∧
      (scan.next registry).taken index = scan.taken index) ∨
    ∃ event, (scan.queues index).peek = some event ∧
      (scan.next registry).queues index = (scan.queues index).dequeue ∧
      (scan.next registry).taken index = scan.taken index ++ [event] := by
  cases first : (scan.queues ⟨scan.nextReadIndex, inRange⟩).peek with
  | none =>
      rw [next_empty inRange first]
      exact Or.inl ⟨rfl, rfl⟩
  | some event =>
      rw [next_event inRange first]
      by_cases same : index = ⟨scan.nextReadIndex, inRange⟩
      · right
        subst same
        exact ⟨event, first, Function.update_self _ _ _, by simp [taken]⟩
      · left
        have other : scan.nextReadIndex ≠ index := fun equal => same (Fin.ext equal.symm)
        exact ⟨Function.update_of_ne same _ _, by simp [taken, other]⟩

/-- What is handed out is determined by what is taken. -/
theorem next_data (inRange : scan.nextReadIndex < n) {before : List SensorsEvent}
    (accounted : before ++ scan.data = handed registry scan.log) :
    before ++ (scan.next registry).data = handed registry (scan.next registry).log := by
  cases first : (scan.queues ⟨scan.nextReadIndex, inRange⟩).peek with
  | none =>
      rw [next_empty inRange first]
      exact accounted
  | some event =>
      rw [next_event inRange first]
      simp only [handed, List.map_append, List.filter_append] at accounted ⊢
      rw [← accounted]
      split
      next dropped => simp [dropped]
      next kept => simp [kept]

/-! ### The whole loop -/

/-- The number of events in the queues. -/
def pending (scan : Scan n) : Nat := ∑ index, (scan.queues index).mSize

/-- Events in the queues, then queues still to be looked at. -/
def variant (scan : Scan n) : Nat := scan.pending * (n + 1) + (n - scan.empties)

/-- What holds during a run of the loop that starts with `start`. -/
structure Sound (registry : Registry) (start scan : Scan n) : Prop where
  index_lt : scan.nextReadIndex < n
  empties_le : scan.empties ≤ n
  valid : ∀ index, (scan.queues index).Valid
  log_lt : ∀ entry ∈ scan.log, entry.1 < n
  accounted : ∀ index, (start.queues index).readable =
    scan.taken index ++ (scan.queues index).readable
  data : scan.data = handed registry scan.log
  total : scan.log.length + scan.pending = start.pending
  /-- The queues that were looked at last, in a row, are empty. -/
  emptied : ∀ index : Fin n, n ≤ ahead n scan.nextReadIndex index + scan.empties →
    (scan.queues index).peek = none

/-- A scan with the locals as `poll` initialises them. -/
def start (queues : Fin n → SensorEventQueue SensorsEvent) (nextReadIndex : Nat) : Scan n :=
  ⟨queues, nextReadIndex, 0, [], []⟩

/-- A scan starts sound. -/
theorem start_sound {queues : Fin n → SensorEventQueue SensorsEvent}
    (valid : ∀ index, (queues index).Valid) {nextReadIndex : Nat} (index_lt : nextReadIndex < n) :
    Sound registry (start queues nextReadIndex) (start queues nextReadIndex) where
  index_lt := index_lt
  empties_le := Nat.zero_le _
  valid := valid
  log_lt _ absent := by cases absent
  accounted _ := rfl
  data := rfl
  total := Nat.zero_add _
  emptied index far := by
    have near := ahead_lt (Nat.lt_of_le_of_lt (Nat.zero_le _) index_lt) nextReadIndex index
    simp only [start] at far
    omega

/-- Taking an event leaves one less. -/
theorem pending_event (registry : Registry) (inRange : scan.nextReadIndex < n) {event : SensorsEvent}
    (first : (scan.queues ⟨scan.nextReadIndex, inRange⟩).peek = some event) :
    (scan.next registry).pending + 1 = scan.pending := by
  have before := Finset.add_sum_erase Finset.univ (fun index => (scan.queues index).mSize)
    (Finset.mem_univ ⟨scan.nextReadIndex, inRange⟩)
  have after := Finset.add_sum_erase Finset.univ
    (fun index => ((scan.next registry).queues index).mSize)
    (Finset.mem_univ ⟨scan.nextReadIndex, inRange⟩)
  have others : ∑ index ∈ Finset.univ.erase ⟨scan.nextReadIndex, inRange⟩,
      ((scan.next registry).queues index).mSize =
        ∑ index ∈ Finset.univ.erase ⟨scan.nextReadIndex, inRange⟩, (scan.queues index).mSize := by
    apply Finset.sum_congr rfl
    intro index other
    rw [next_event inRange first]
    dsimp only
    rw [Function.update_of_ne (Finset.ne_of_mem_erase other)]
  have own : ((scan.next registry).queues ⟨scan.nextReadIndex, inRange⟩).mSize + 1 =
      (scan.queues ⟨scan.nextReadIndex, inRange⟩).mSize := by
    rw [next_event inRange first]
    dsimp only
    rw [Function.update_self]
    exact SensorEventQueue.mSize_dequeue first
  rw [pending, pending]
  omega

/-- An iteration keeps the queues that were looked at last, in a row, empty. -/
theorem next_emptied (index_lt : scan.nextReadIndex < n)
    (emptied : ∀ index : Fin n, n ≤ ahead n scan.nextReadIndex index + scan.empties →
      (scan.queues index).peek = none) (index : Fin n)
    (far : n ≤ ahead n (scan.next registry).nextReadIndex index + (scan.next registry).empties) :
    ((scan.next registry).queues index).peek = none := by
  have positive : 0 < n := Nat.lt_of_le_of_lt (Nat.zero_le _) index_lt
  cases first : (scan.queues ⟨scan.nextReadIndex, index_lt⟩).peek with
  | none =>
      rw [next_empty index_lt first] at far ⊢
      by_cases same : index = ⟨scan.nextReadIndex, index_lt⟩
      · rw [same]
        exact first
      · -- The queue is one step further ahead than before.
        have nearer := ahead_succ index_lt index.isLt fun equal => same (Fin.ext equal)
        apply emptied index
        dsimp only at far
        omega
  | some event =>
      rw [next_event index_lt first] at far
      have near := ahead_lt positive ((scan.nextReadIndex + 1) % n) index
      dsimp only at far
      omega

/-- A step keeps the scan sound. -/
theorem next_sound {origin : Scan n} (sound : Sound registry origin scan) {maxReads : Nat}
    (test : more maxReads scan = true) : Sound registry origin (scan.next registry) := by
  obtain ⟨index_lt, _, valid, log_lt, accounted, data, total, emptied⟩ := sound
  have empties_lt : scan.empties < n := by
    simp only [more, Bool.and_eq_true, decide_eq_true_eq] at test
    exact test.1
  have positive : 0 < n := by omega
  constructor
  case index_lt =>
    rw [next_index index_lt]
    exact Nat.mod_lt _ positive
  case valid =>
    intro index
    rcases next_queue index_lt index with ⟨same, _⟩ | ⟨event, _, taken, _⟩
    · rw [same]
      exact valid index
    · rw [taken]
      exact SensorEventQueue.dequeue_valid (valid index)
  case accounted =>
    intro index
    rcases next_queue index_lt index with ⟨same, kept⟩ | ⟨event, first, dequeued, taken⟩
    · rw [same, kept]
      exact accounted index
    · rw [dequeued, taken, accounted index, SensorEventQueue.readable_peek (valid index) first]
      simp
  case data =>
    rw [← List.nil_append scan.data] at data
    exact next_data index_lt data
  case empties_le =>
    cases first : (scan.queues ⟨scan.nextReadIndex, index_lt⟩).peek with
    | none =>
        rw [next_empty index_lt first]
        exact empties_lt
    | some event =>
        rw [next_event index_lt first]
        exact Nat.zero_le n
  case log_lt =>
    cases first : (scan.queues ⟨scan.nextReadIndex, index_lt⟩).peek with
    | none =>
        rw [next_empty index_lt first]
        exact log_lt
    | some event =>
        rw [next_event index_lt first]
        intro entry member
        rcases List.mem_append.mp member with old | new
        · exact log_lt entry old
        · rw [List.mem_singleton.mp new]
          exact index_lt
  case total =>
    cases first : (scan.queues ⟨scan.nextReadIndex, index_lt⟩).peek with
    | none =>
        rw [next_empty index_lt first]
        exact total
    | some event =>
        have less := pending_event registry index_lt first
        have more : (scan.next registry).log.length = scan.log.length + 1 := by
          rw [next_event index_lt first]
          simp
        omega
  case emptied => exact next_emptied index_lt emptied

/-- Each iteration takes an event or finds one more queue empty. -/
theorem variant_next (index_lt : scan.nextReadIndex < n) {maxReads : Nat}
    (test : more maxReads scan = true) : (scan.next registry).variant < scan.variant := by
  have empties_lt : scan.empties < n := by
    simp only [more, Bool.and_eq_true, decide_eq_true_eq] at test
    exact test.1
  cases first : (scan.queues ⟨scan.nextReadIndex, index_lt⟩).peek with
  | none =>
      have same : (scan.next registry).pending = scan.pending := by
        rw [next_empty index_lt first]
        rfl
      rw [variant, variant, same, next_empty index_lt first]
      dsimp only
      omega
  | some event =>
      have less := pending_event registry index_lt first
      have empties : (scan.next registry).empties = 0 := by rw [next_event index_lt first]
      rw [variant, variant, ← less, empties, Nat.succ_mul]
      omega

/-- A run that ends has kept the account of all events, and has filled the buffer or
found every queue empty. -/
theorem run_sound {queues : Fin n → SensorEventQueue SensorsEvent}
    (valid : ∀ index, (queues index).Valid) {nextReadIndex : Nat} (index_lt : nextReadIndex < n)
    {maxReads fuel : Nat} {final : Scan n}
    (ended : (start queues nextReadIndex).run registry maxReads fuel = some final) :
    Sound registry (start queues nextReadIndex) final ∧ more maxReads final = false :=
  loop_invariant (fun _ test sound => next_sound sound test) (start_sound valid index_lt) ended

/-- Every run ends. -/
theorem run_ends (registry : Registry) {queues : Fin n → SensorEventQueue SensorsEvent}
    (valid : ∀ index, (queues index).Valid) {nextReadIndex : Nat} (index_lt : nextReadIndex < n)
    (maxReads : Nat) : ∃ fuel final,
      (start queues nextReadIndex).run registry maxReads fuel = some final := by
  obtain ⟨final, ended, _⟩ := loop_terminates variant
    (fun scan test (sound : Sound registry _ scan) => next_sound sound test)
    (fun scan test sound => variant_next sound.index_lt test) (start_sound valid index_lt)
    (Nat.lt_succ_self _)
  exact ⟨_, final, ended⟩

/-- A run with a large enough buffer takes every event. -/
theorem run_drains {queues : Fin n → SensorEventQueue SensorsEvent}
    (valid : ∀ index, (queues index).Valid) {nextReadIndex : Nat} (index_lt : nextReadIndex < n)
    {maxReads fuel : Nat} (large : (start queues nextReadIndex).pending < maxReads)
    {final : Scan n} (ended : (start queues nextReadIndex).run registry maxReads fuel = some final)
    (index : Fin n) : final.taken index = (queues index).readable := by
  obtain ⟨sound, done⟩ := run_sound valid index_lt ended
  have few : final.data.length < maxReads := by
    have bound : final.data.length ≤ final.log.length := by
      rw [sound.data, handed]
      exact Nat.le_trans (List.length_filter_le _ _) (Nat.le_of_eq (List.length_map _))
    have total := sound.total
    omega
  have empty : (final.queues index).peek = none := by
    apply sound.emptied
    simp only [more, few, decide_true, Bool.and_true, decide_eq_false_iff_not] at done
    omega
  have accounted := sound.accounted index
  rw [SensorEventQueue.readable_nil empty, List.append_nil] at accounted
  exact accounted.symm

/-- The index stays in range, however often the loop iterates. -/
theorem iterate_index_lt (registry : Registry) {scan : Scan n} (index_lt : scan.nextReadIndex < n)
    (iterations : Nat) : ((next registry)^[iterations] scan).nextReadIndex < n := by
  induction iterations generalizing scan with
  | zero => exact index_lt
  | succ iterations ih =>
      rw [Function.iterate_succ_apply]
      apply ih
      rw [next_index index_lt]
      exact Nat.mod_lt _ (Nat.lt_of_le_of_lt (Nat.zero_le _) index_lt)

/-- A step hands on at most one event. -/
theorem next_data_length (inRange : scan.nextReadIndex < n) :
    (scan.next registry).data.length ≤ scan.data.length + 1 := by
  cases first : (scan.queues ⟨scan.nextReadIndex, inRange⟩).peek with
  | none =>
      rw [next_empty inRange first]
      exact Nat.le_succ _
  | some event =>
      rw [next_event inRange first]
      dsimp only
      split
      · exact Nat.le_succ _
      · rw [List.length_append, List.length_singleton]

/-- The buffer does not overflow. -/
theorem run_data_length {queues : Fin n → SensorEventQueue SensorsEvent} {nextReadIndex : Nat}
    (index_lt : nextReadIndex < n) {maxReads fuel : Nat} {final : Scan n}
    (ended : (start queues nextReadIndex).run registry maxReads fuel = some final) :
    final.data.length ≤ maxReads := by
  have preserved : ∀ scan : Scan n, more maxReads scan = true →
      scan.nextReadIndex < n ∧ scan.data.length ≤ maxReads →
      (scan.next registry).nextReadIndex < n ∧ (scan.next registry).data.length ≤ maxReads := by
    rintro scan test ⟨inRange, _⟩
    simp only [more, Bool.and_eq_true, decide_eq_true_eq] at test
    have grown := @next_data_length _ registry _ inRange
    exact ⟨iterate_index_lt registry inRange 1, by omega⟩
  exact (loop_invariant preserved ⟨index_lt, Nat.zero_le _⟩ ended).1.2

/-- One pass over the queues ends, with one event or more in the buffer, or with none and
all queues empty. -/
theorem run_reads_or_empties (registry : Registry)
    {queues : Fin n → SensorEventQueue SensorsEvent} (valid : ∀ index, (queues index).Valid)
    {nextReadIndex : Nat} (index_lt : nextReadIndex < n) {maxReads : Nat}
    (positive : 1 ≤ maxReads) :
    (∃ fuel final, (start queues nextReadIndex).run registry maxReads fuel = some final) ∧
    (∀ fuel final, (start queues nextReadIndex).run registry maxReads fuel = some final →
      (1 ≤ final.data.length ∧ final.data.length ≤ maxReads) ∨
        (final.data = [] ∧ ∀ index, (final.queues index).peek = none)) ∧
    ∀ iterations, ((next registry)^[iterations] (start queues nextReadIndex)).nextReadIndex < n := by
  refine ⟨run_ends registry valid index_lt maxReads, ?_, iterate_index_lt registry index_lt⟩
  intro fuel final ended
  obtain ⟨sound, done⟩ := run_sound valid index_lt ended
  rcases Nat.eq_zero_or_pos final.data.length with nothing | something
  · right
    refine ⟨List.eq_nil_of_length_eq_zero nothing, fun index => sound.emptied index ?_⟩
    -- The buffer has room, so the loop ended because it found all queues empty in a row.
    simp only [more, nothing, Bool.and_eq_false_iff, decide_eq_false_iff_not] at done
    omega
  · exact Or.inl ⟨something, run_data_length index_lt ended⟩

/-- A queue with one event of an accelerometer. -/
def oneEventQueue (sensor : Int) : SensorEventQueue SensorsEvent :=
  (SensorEventQueue.new 36 fun _ => ⟨0, sensor, 1, 0, 0, 0, []⟩).markAsWritten 1

theorem oneEventQueue_valid (sensor : Int) : (oneEventQueue sensor).Valid :=
  ⟨(by decide : 0 < 36), (by decide : 1 ≤ 36)⟩

/-- For example if the sensor of the first event is not listed and that of the second is: the first
is dropped, the second handed out. -/
theorem run_reads_or_empties_unlisted :
    let registry := (Registry.empty.assignGlobalHandle 0 3).2
    let scan := start (fun index : Fin 2 => oneEventQueue (3 + index.val)) 1
    (∃ final, scan.run registry 1 9 = some final ∧ final.log.length = 2 ∧
      final.data.length = 1) ∧
    (∃ fuel final, scan.run registry 1 fuel = some final) ∧
    (∀ fuel final, scan.run registry 1 fuel = some final →
      (1 ≤ final.data.length ∧ final.data.length ≤ 1) ∨
        (final.data = [] ∧ ∀ index, (final.queues index).peek = none)) ∧
    ∀ iterations, ((next registry)^[iterations] scan).nextReadIndex < 2 :=
  ⟨⟨_, rfl, rfl, rfl⟩, run_reads_or_empties _ (fun _ => oneEventQueue_valid _) (by decide)
    (Nat.le_refl 1)⟩

end Scan

/-! ## The names of the events -/

/-- Every event that a scan hands to the caller names the sensor that it is about. -/
def ScanNamed (registry : Registry) (queues : Fin n → SensorEventQueue SensorsEvent)
    (nextReadIndex maxReads : Nat) : Prop :=
  ∀ fuel final, (Scan.start queues nextReadIndex).run registry maxReads fuel = some final →
    final.data = handed registry final.log ∧
    ∀ entry ∈ final.log,
      (copyEventRemapHandle registry entry.2 entry.1).sensor ≠ -1 → Named registry entry

/-- An event whose name survives the test of `poll`: nothing is tested about the handle
that meta data nest. -/
def MetaDataListed (registry : Registry) (index : Nat) (event : SensorsEvent) : Prop :=
  event.type = sensorTypeMetaData → event.sensor = -1 ∨
    (registry.fullToGlobal ⟨index, event.metaDataSensor⟩).isSome

/-- An event with listed sensors is named. -/
theorem named_of_listed {registry : Registry} {entry : Nat × SensorsEvent}
    (listed : MetaDataListed registry entry.1 entry.2)
    (passed : (copyEventRemapHandle registry entry.2 entry.1).sensor ≠ -1) :
    Named registry entry := by
  rw [named_iff]
  rw [copyEventRemapHandle_sensor] at passed
  split at passed
  next metaData =>
    have known := (listed metaData).resolve_left passed
    rwa [SensorsEvent.handle, if_pos metaData]
  next =>
    by_contra unknown
    exact passed (Registry.getGlobalHandle_unknown (Option.not_isSome_iff_eq_none.mp unknown))

/-- For given maps and queues, every event that any scan hands out names a listed
sensor exactly if every meta data event in a queue nests a listed handle, or has -1
as its own sensor. -/
theorem scan_named_iff (registry : Registry) {queues : Fin n → SensorEventQueue SensorsEvent}
    (valid : ∀ index, (queues index).Valid) :
    (∀ nextReadIndex < n, ∀ maxReads ≥ 1, ScanNamed registry queues nextReadIndex maxReads) ↔
      ∀ index : Fin n, ∀ event ∈ (queues index).readable, MetaDataListed registry index event := by
  constructor
  · intro named index event queued metaData
    have positive : 0 < n := Nat.lt_of_le_of_lt (Nat.zero_le _) index.isLt
    -- A call with a large enough buffer takes the event.
    obtain ⟨fuel, final, ended⟩ := Scan.run_ends registry valid positive
      ((Scan.start queues 0).pending + 1)
    have taken := Scan.run_drains valid positive (Nat.lt_succ_self _) ended index
    rw [← taken, Scan.taken, List.mem_map] at queued
    obtain ⟨entry, member, rfl⟩ := queued
    rw [List.mem_filter, decide_eq_true_eq] at member
    by_contra neither
    rw [not_or] at neither
    have names := (named 0 positive _ (Nat.le_add_left 1 _) fuel final ended).2 entry member.1 (by
      rw [copyEventRemapHandle_sensor, if_pos metaData]
      exact neither.1)
    rw [named_iff, SensorsEvent.handle, if_pos metaData, member.2] at names
    exact neither.2 names
  · intro listed nextReadIndex index_lt maxReads _ fuel final ended
    obtain ⟨sound, _⟩ := Scan.run_sound valid index_lt ended
    refine ⟨sound.data, fun entry member passed => named_of_listed ?_ passed⟩
    apply listed ⟨entry.1, sound.log_lt entry member⟩
    have accounted : (queues ⟨entry.1, sound.log_lt entry member⟩).readable = _ :=
      sound.accounted ⟨entry.1, sound.log_lt entry member⟩
    rw [accounted, List.mem_append]
    left
    exact List.mem_map.mpr ⟨entry, List.mem_filter.mpr ⟨member, by simp⟩, rfl⟩

/-- A queue with one meta data event about local handle 3. -/
def flushCompleteQueue : SensorEventQueue SensorsEvent :=
  (SensorEventQueue.new 36 fun _ => ⟨0, 0, sensorTypeMetaData, 0, 1, 3, []⟩).markAsWritten 1

theorem flushCompleteQueue_valid : flushCompleteQueue.Valid := ⟨by decide, by decide⟩

theorem scan_named_listed : ScanNamed
    (Registry.empty.assignGlobalHandle 0 3).2 (fun _ : Fin 1 => flushCompleteQueue) 0 1 := by
  apply (scan_named_iff _ fun _ => flushCompleteQueue_valid).mpr _ 0 (by decide) 1 (by decide)
  intro index event queued _
  right
  cases List.mem_singleton.mp queued
  rw [Fin.fin_one_eq_zero index]
  rfl

/-- If no sensor is listed, the event is handed out all the same. -/
theorem scan_unlisted_metaData :
    ¬ ScanNamed .empty (fun _ : Fin 1 => flushCompleteQueue) 0 1 := by
  intro named
  have names := (named 2 _ rfl).2 _ List.mem_cons_self (by decide)
  rw [named_iff] at names
  cases names

end T00F.Sensors
