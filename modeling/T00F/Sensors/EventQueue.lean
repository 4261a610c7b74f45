import T00F.Systems.Circular

/-!
# Sensor event queues

`SensorEventQueue`, the circular queue between a writer task and `poll`. The
region that `getWritableRegion` returns is not recorded in the queue:
`getWritableRegion_region` says where it lies, and `Region` is what later
operations of the reader preserve (`Region.dequeue`) until the writer marks it as
written (`Region.markAsWritten`). Condition variables are part of the tasks.
-/

namespace T00F.Sensors

open Systems

universe u

variable {Event : Type u}

/-- `SensorEventQueue`: `mData` is the memory from the start of the array on. -/
structure SensorEventQueue (Event : Type u) where
  mCapacity : Nat
  mStart : Nat
  mSize : Nat
  mData : Nat → Event

namespace SensorEventQueue

/-- The constructor; the array is whatever `new` returns. -/
def new (capacity : Nat) (mData : Nat → Event) : SensorEventQueue Event := ⟨capacity, 0, 0, mData⟩

/-- The length of the region and the index of its first slot, or `NULL`. -/
def getWritableRegion (queue : SensorEventQueue Event) (requestedLength : Int) :
    Int × Option Nat :=
  if queue.mSize = queue.mCapacity ∨ requestedLength ≤ 0 then (0, none)
  else
    let firstWritable := (queue.mStart + queue.mSize) % queue.mCapacity
    let lastWritable := (firstWritable : Int) + requestedLength - 1
    let lastWritable :=
      if lastWritable > (queue.mCapacity : Int) - 1 then (queue.mCapacity : Int) - 1
      else lastWritable
    let lastWritable :=
      if firstWritable < queue.mStart ∧ lastWritable ≥ queue.mStart then (queue.mStart : Int) - 1
      else lastWritable
    (lastWritable - firstWritable + 1, some firstWritable)

def markAsWritten (queue : SensorEventQueue Event) (count : Nat) : SensorEventQueue Event :=
  { queue with mSize := queue.mSize + count }

/-- The first readable event, or `NULL`. -/
def peek (queue : SensorEventQueue Event) : Option Event :=
  if queue.mSize = 0 then none else some (queue.mData queue.mStart)

def dequeue (queue : SensorEventQueue Event) : SensorEventQueue Event :=
  if queue.mSize = 0 then queue
  else
    { queue with
      mSize := queue.mSize - 1
      mStart := (queue.mStart + 1) % queue.mCapacity }

/-- The condition under which `waitForSpace` waits and `dequeue` signals. -/
def isFull (queue : SensorEventQueue Event) : Bool := queue.mSize == queue.mCapacity

/-- A write of the device into the array. -/
def write (queue : SensorEventQueue Event) (slot : Nat) (event : Event) :
    SensorEventQueue Event :=
  { queue with mData := Function.update queue.mData slot event }

/-- The readable events, oldest first. -/
def readable (queue : SensorEventQueue Event) : List Event :=
  window queue.mData queue.mCapacity queue.mStart queue.mSize

/-- The invariant of a queue that has room for an event. -/
structure Valid (queue : SensorEventQueue Event) : Prop where
  start_lt : queue.mStart < queue.mCapacity
  size_le : queue.mSize ≤ queue.mCapacity

/-- A region that may be written: free slots from the end of the readable ones on,
without wrapping. -/
structure Region (queue : SensorEventQueue Event) (first length : Nat) : Prop where
  behind : first = (queue.mStart + queue.mSize) % queue.mCapacity
  inArray : first + length ≤ queue.mCapacity
  free : queue.mSize + length ≤ queue.mCapacity

variable {queue : SensorEventQueue Event}

/-- A new queue with room is valid. -/
theorem new_valid {capacity : Nat} (positive : 0 < capacity) (mData : Nat → Event) :
    (new capacity mData).Valid := ⟨positive, Nat.zero_le _⟩

/-- With space, the region starts behind the readable events and holds at least one
slot and at most as many as requested. -/
theorem getWritableRegion_region (valid : queue.Valid) (space : queue.isFull = false)
    {requestedLength : Nat} (positive : 0 < requestedLength) :
    ∃ first length : Nat, queue.getWritableRegion requestedLength = ((length : Int), some first) ∧
      0 < length ∧ length ≤ requestedLength ∧ queue.Region first length := by
  obtain ⟨start_lt, size_le⟩ := valid
  have notFull : queue.mSize ≠ queue.mCapacity := by simpa [isFull] using space
  have refused : ¬ (queue.mSize = queue.mCapacity ∨ (requestedLength : Int) ≤ 0) := by omega
  have behind := behind_window start_lt size_le
  have bound := Nat.mod_lt (queue.mStart + queue.mSize) (Nat.lt_of_le_of_lt (Nat.zero_le _) start_lt)
  -- The last slot is clipped at the end of the array and at the readable slots.
  let last : Nat := min (min ((queue.mStart + queue.mSize) % queue.mCapacity + requestedLength)
    queue.mCapacity) (if (queue.mStart + queue.mSize) % queue.mCapacity < queue.mStart then
      queue.mStart else queue.mCapacity)
  refine ⟨(queue.mStart + queue.mSize) % queue.mCapacity,
    last - (queue.mStart + queue.mSize) % queue.mCapacity, ?_, ?_, ?_, rfl, ?_, ?_⟩
  all_goals
    simp only [getWritableRegion, if_neg refused, last]
    generalize (queue.mStart + queue.mSize) % queue.mCapacity = first at behind bound ⊢
  · rw [Prod.mk.injEq]
    refine ⟨?_, rfl⟩
    split_ifs at behind ⊢ <;> omega
  all_goals split_ifs at behind ⊢ <;> omega

/-- A region keeps clear of the readable slots. -/
theorem Region.outside (valid : queue.Valid) {first length : Nat} (region : queue.Region first length)
    {slot : Nat} (low : first ≤ slot) (high : slot < first + length) {place : Nat}
    (readable : place < queue.mSize) : (queue.mStart + place) % queue.mCapacity ≠ slot := by
  rw [region.behind] at low high
  exact slot_outside valid.start_lt region.free low high readable

/-- Writing into a region does not change what is readable. -/
theorem Region.readable_write (valid : queue.Valid) {first length : Nat}
    (region : queue.Region first length) {slot : Nat} (low : first ≤ slot)
    (high : slot < first + length) (event : Event) :
    (queue.write slot event).readable = queue.readable :=
  window_congr fun _ inside => Function.update_of_ne (region.outside valid low high inside) _ _

/-- The readable events of a queue with at least one. -/
theorem readable_peek (valid : queue.Valid) {event : Event} (first : queue.peek = some event) :
    queue.readable = event :: queue.dequeue.readable := by
  unfold peek at first
  split at first
  · cases first
  next nonempty =>
    cases first
    obtain ⟨size, more⟩ := Nat.exists_eq_succ_of_ne_zero nonempty
    rw [readable, more, Nat.succ_eq_add_one, window_cons _ valid.start_lt]
    simp [readable, dequeue, more]

/-- A queue without a first event has nothing to read. -/
theorem readable_nil (empty : queue.peek = none) : queue.readable = [] := by
  unfold peek at empty
  split at empty
  next none => rw [readable, none, window_zero]
  next => cases empty

/-- A queue has no first event exactly when its size is zero. -/
theorem peek_eq_none : queue.peek = none ↔ queue.mSize = 0 := by
  unfold peek
  split
  next none => simp [none]
  next some => simp [some]

/-- A dequeue makes the queue one smaller. -/
theorem mSize_dequeue {event : Event} (first : queue.peek = some event) :
    queue.dequeue.mSize + 1 = queue.mSize := by
  unfold peek at first
  split at first
  · cases first
  next nonempty =>
    rw [dequeue, if_neg nonempty]
    dsimp only
    omega

/-- A dequeue leaves the ring's memory. -/
theorem mData_dequeue (queue : SensorEventQueue Event) : queue.dequeue.mData = queue.mData := by
  unfold dequeue
  split
  · rfl
  · rfl

/-- A dequeue keeps the queue valid. -/
theorem dequeue_valid (valid : queue.Valid) : queue.dequeue.Valid := by
  obtain ⟨start_lt, size_le⟩ := valid
  unfold dequeue
  split
  · exact ⟨start_lt, size_le⟩
  · constructor
    · exact Nat.mod_lt _ (Nat.lt_of_le_of_lt (Nat.zero_le _) start_lt)
    · exact Nat.le_trans (Nat.sub_le _ _) size_le

/-- Taking an event keeps every region: its first slot stays where it is. -/
theorem Region.dequeue {first length : Nat} (region : queue.Region first length) :
    queue.dequeue.Region first length := by
  obtain ⟨behind, inArray, free⟩ := region
  unfold SensorEventQueue.dequeue
  split
  · exact ⟨behind, inArray, free⟩
  next nonempty =>
    have same : queue.mStart + 1 + (queue.mSize - 1) = queue.mStart + queue.mSize := by omega
    refine ⟨?_, inArray, ?_⟩
    · rw [Nat.mod_add_mod, same, behind]
    · dsimp only
      omega

/-- Marking part of the writable region as written keeps the queue valid. -/
theorem markAsWritten_valid (valid : queue.Valid) {first length count : Nat}
    (region : queue.Region first length) (bound : count ≤ length) :
    (queue.markAsWritten count).Valid := by
  refine ⟨valid.start_lt, ?_⟩
  have free := region.free
  simp only [markAsWritten]
  omega

/-- Marking the first slots of a region as written appends their events. -/
theorem readable_markAsWritten {first length count : Nat} (region : queue.Region first length)
    (bound : count ≤ length) : (queue.markAsWritten count).readable =
      queue.readable ++ (List.range count).map fun place => queue.mData (first + place) := by
  have inArray := region.inArray
  rw [readable, markAsWritten, window_append, ← region.behind,
    window_contiguous _ (by omega : first + count ≤ queue.mCapacity)]
  rfl

end SensorEventQueue

end T00F.Sensors
