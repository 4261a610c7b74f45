import T00F.Systems.SignedInt
import T00F.Systems.Transition
import T00F.Sensors.EventQueue

/-!
# The event queue with its `int` fields

`SensorEventQueue` as the compiler sees it: 32-bit fields and requests, and a
remainder that may not exist. `IntQueue.toQueue` maps it to the queue over the
natural numbers, and `getWritableRegion_refines`, `dequeue_refines` and
`markAsWritten_refines` say that within the bounds of a valid queue nothing wraps.
`runs` are the sequences of the operations in which the writer keeps to the region
it got last, and `reachable_regions` is what holds in all of them.
-/

namespace T00F.Sensors

open Systems

universe u

variable {Event : Type u}

/-- `SensorEventQueue` with its `int` fields. -/
structure IntQueue (Event : Type u) where
  mCapacity : Int32
  mStart : Int32
  mSize : Int32
  mData : Nat → Event

namespace IntQueue

/-- The constructor; the array is whatever `new` returns. -/
def new (capacity : Int32) (mData : Nat → Event) : IntQueue Event := ⟨capacity, 0, 0, mData⟩

/-- The length of the region and the index of its first slot, or `NULL`. The whole is
`none` when the remainder is by zero. -/
def getWritableRegion (queue : IntQueue Event) (requestedLength : Int32) :
    Option (Int32 × Option Int32) :=
  if queue.mSize = queue.mCapacity ∨ requestedLength ≤ 0 then some (0, none)
  else
    (remainder (queue.mStart + queue.mSize) queue.mCapacity).map fun firstWritable =>
      let lastWritable := firstWritable + requestedLength - 1
      let lastWritable :=
        if lastWritable > queue.mCapacity - 1 then queue.mCapacity - 1 else lastWritable
      let lastWritable :=
        if firstWritable < queue.mStart ∧ lastWritable ≥ queue.mStart then queue.mStart - 1
        else lastWritable
      (lastWritable - firstWritable + 1, some firstWritable)

def markAsWritten (queue : IntQueue Event) (count : Int32) : IntQueue Event :=
  { queue with mSize := queue.mSize + count }

/-- `none` when the remainder is by zero. -/
def dequeue (queue : IntQueue Event) : Option (IntQueue Event) :=
  if queue.mSize = 0 then some queue
  else
    (remainder (queue.mStart + 1) queue.mCapacity).map fun start =>
      { queue with mSize := queue.mSize - 1, mStart := start }

/-- A write of the device into the array. -/
def write (queue : IntQueue Event) (slot : Nat) (event : Event) : IntQueue Event :=
  { queue with mData := Function.update queue.mData slot event }

/-- The queue over the natural numbers. -/
def toQueue (queue : IntQueue Event) : SensorEventQueue Event where
  mCapacity := queue.mCapacity.toNatClampNeg
  mStart := queue.mStart.toNatClampNeg
  mSize := queue.mSize.toNatClampNeg
  mData := queue.mData

/-- The fields of a queue are in their bounds. -/
structure Bounded (queue : IntQueue Event) : Prop where
  size_nonneg : 0 ≤ queue.mSize.toInt
  size_le : queue.mSize.toInt ≤ queue.mCapacity.toInt
  start_nonneg : 0 ≤ queue.mStart.toInt
  start_lt : queue.mStart.toInt < queue.mCapacity.toInt ∨ queue.mCapacity = 0

variable {queue : IntQueue Event}

namespace Bounded

/-- A new queue with a nonnegative capacity is bounded. -/
theorem new {capacity : Int32} (nonneg : 0 ≤ capacity.toInt) (mData : Nat → Event) :
    (IntQueue.new capacity mData).Bounded := by
  refine ⟨le_rfl, nonneg, le_rfl, ?_⟩
  rcases nonneg.lt_or_eq with positive | empty
  · exact .inl positive
  · exact .inr (Int32.toInt_inj.mp empty.symm)

/-- The capacity of a bounded queue is nonnegative. -/
theorem capacity_nonneg (bounded : queue.Bounded) : 0 ≤ queue.mCapacity.toInt :=
  bounded.size_nonneg.trans bounded.size_le

/-- The fields as natural numbers. -/
theorem casts (bounded : queue.Bounded) :
    (queue.toQueue.mCapacity : Int) = queue.mCapacity.toInt ∧
      (queue.toQueue.mStart : Int) = queue.mStart.toInt ∧
      (queue.toQueue.mSize : Int) = queue.mSize.toInt :=
  ⟨toNatClampNeg_cast bounded.capacity_nonneg, toNatClampNeg_cast bounded.start_nonneg,
    toNatClampNeg_cast bounded.size_nonneg⟩

/-- A queue with an event or with space has slots. -/
theorem start_lt_of_pos (bounded : queue.Bounded) (positive : 0 < queue.mCapacity.toInt) :
    queue.mStart.toInt < queue.mCapacity.toInt := by
  rcases bounded.start_lt with start_lt | empty
  · exact start_lt
  · rw [empty] at positive
    exact absurd positive (by decide)

/-- A bounded queue with room is a valid one. -/
theorem valid (bounded : queue.Bounded) (positive : 0 < queue.mCapacity.toInt) :
    queue.toQueue.Valid := by
  obtain ⟨capacity, start, size⟩ := bounded.casts
  have start_lt := bounded.start_lt_of_pos positive
  have size_le := bounded.size_le
  constructor
  · omega
  · omega

end Bounded

/-- The refusals of both queues. -/
theorem refused_iff (bounded : queue.Bounded) (requestedLength : Int32) :
    (queue.mSize = queue.mCapacity ∨ requestedLength ≤ 0) ↔
      (queue.toQueue.mSize = queue.toQueue.mCapacity ∨ requestedLength.toInt ≤ 0) := by
  obtain ⟨capacity, -, size⟩ := bounded.casts
  have full : queue.mSize = queue.mCapacity ↔ queue.toQueue.mSize = queue.toQueue.mCapacity := by
    rw [← Int32.toInt_inj, ← capacity, ← size]
    exact Nat.cast_inj
  exact or_congr full Int32.le_iff_toInt_le

/-- The first slot behind the readable events. -/
theorem firstWritable_refines (bounded : queue.Bounded) (small : queue.mCapacity.toInt ≤ 2 ^ 30)
    (space : queue.mSize.toInt < queue.mCapacity.toInt) :
    ∃ firstWritable, remainder (queue.mStart + queue.mSize) queue.mCapacity = some firstWritable ∧
      firstWritable.toInt =
        ((queue.toQueue.mStart + queue.toQueue.mSize) % queue.toQueue.mCapacity : Nat) := by
  obtain ⟨capacity, start, size⟩ := bounded.casts
  have size_nonneg := bounded.size_nonneg
  have start_nonneg := bounded.start_nonneg
  have start_lt := bounded.start_lt_of_pos (by omega)
  -- A queue with space has at most `2 * mCapacity - 2` as the sum.
  have sum : (queue.mStart + queue.mSize).toInt = queue.mStart.toInt + queue.mSize.toInt :=
    toInt_add_of_fits (by omega) (by omega)
  obtain ⟨first, remains, first_eq⟩ :=
    remainder_of_pos (a := queue.mStart + queue.mSize) (b := queue.mCapacity) (by omega) (by omega)
  refine ⟨first, remains, ?_⟩
  rw [first_eq, sum, Int.natCast_emod, Nat.cast_add, capacity, start, size]

/-- Within the bounds, and as long as the end of the request fits, the region is that of
the queue over the natural numbers. -/
theorem getWritableRegion_refines (bounded : queue.Bounded)
    (small : queue.mCapacity.toInt ≤ 2 ^ 30) {requestedLength : Int32}
    (fits : queue.mCapacity.toInt + requestedLength.toInt < 2 ^ 31) :
    ∃ length out, queue.getWritableRegion requestedLength = some (length, out) ∧
      queue.toQueue.getWritableRegion requestedLength.toInt =
        (length.toInt, out.map Int32.toNatClampNeg) ∧
      ∀ first, out = some first → 0 ≤ first.toInt := by
  unfold getWritableRegion SensorEventQueue.getWritableRegion
  by_cases refused : queue.mSize = queue.mCapacity ∨ requestedLength ≤ 0
  · rw [if_pos refused, if_pos ((refused_iff bounded requestedLength).mp refused)]
    refine ⟨0, none, rfl, rfl, ?_⟩
    rintro _ ⟨⟩
  rw [if_neg refused, if_neg (mt (refused_iff bounded requestedLength).mpr refused)]
  obtain ⟨capacity, start, size⟩ := bounded.casts
  have size_le := bounded.size_le
  have start_nonneg := bounded.start_nonneg
  obtain ⟨notFull, requested⟩ := not_or.mp refused
  have notFull : queue.mSize.toInt ≠ queue.mCapacity.toInt := mt Int32.toInt_inj.mp notFull
  have requested : 0 < requestedLength.toInt := by
    rw [Int32.le_iff_toInt_le] at requested
    exact Int.not_le.mp requested
  obtain ⟨first, remains, first_eq⟩ := firstWritable_refines bounded small (by omega)
  have start_lt := bounded.start_lt_of_pos (by have := bounded.size_nonneg; omega)
  have bound : (queue.toQueue.mStart + queue.toQueue.mSize) % queue.toQueue.mCapacity <
      queue.toQueue.mCapacity := Nat.mod_lt _ (by omega)
  generalize (queue.toQueue.mStart + queue.toQueue.mSize) % queue.toQueue.mCapacity = slot
    at first_eq bound ⊢
  rw [remains, Option.map_some]
  -- None of the sums and differences wraps.
  have behind : (first + requestedLength).toInt = slot + requestedLength.toInt := by
    rw [toInt_add_of_fits (by omega) (by omega), first_eq]
  have last : (first + requestedLength - 1).toInt = slot + requestedLength.toInt - 1 := by
    rw [toInt_pred_of_lt (by omega), behind]
  have top : (queue.mCapacity - 1).toInt = queue.mCapacity.toInt - 1 :=
    toInt_pred_of_lt (by omega)
  have before : (queue.mStart - 1).toInt = queue.mStart.toInt - 1 := toInt_pred_of_lt (by omega)
  have length : ∀ final : Int32, -1 ≤ final.toInt → final.toInt < queue.mCapacity.toInt →
      (final - first + 1).toInt = final.toInt - slot + 1 := by
    intro final low high
    have difference : (final - first).toInt = final.toInt - slot := by
      rw [toInt_sub_of_fits (by omega) (by omega), first_eq]
    rw [toInt_succ_of_lt (by omega), difference]
  refine ⟨_, _, rfl, ?_, ?_⟩
  · simp only [gt_iff_lt, ge_iff_le, Int32.lt_iff_toInt_lt, Int32.le_iff_toInt_le]
    rw [Prod.mk.injEq]
    constructor
    · rw [length]
      all_goals split_ifs <;> omega
    · rw [Option.map_some, Int32.toNatClampNeg, first_eq, Int.toNat_natCast]
  · rintro _ ⟨⟩
    omega

/-- Taking an event stays within the bounds and is that of the queue over the natural
numbers. -/
theorem dequeue_refines (bounded : queue.Bounded) :
    ∃ next, queue.dequeue = some next ∧ next.Bounded ∧ next.mCapacity = queue.mCapacity ∧
      next.toQueue = queue.toQueue.dequeue := by
  have size_nonneg := bounded.size_nonneg
  have size_le := bounded.size_le
  have start_nonneg := bounded.start_nonneg
  obtain ⟨capacity, start, size⟩ := bounded.casts
  have none_iff : queue.mSize = 0 ↔ queue.toQueue.mSize = 0 := by
    rw [← Int32.toInt_inj, Int32.toInt_zero]
    omega
  unfold dequeue SensorEventQueue.dequeue
  by_cases empty : queue.mSize = 0
  · rw [if_pos empty, if_pos (none_iff.mp empty)]
    exact ⟨queue, rfl, bounded, rfl, rfl⟩
  rw [if_neg empty, if_neg (mt none_iff.mpr empty)]
  have some : 0 < queue.mSize.toInt := by
    rw [none_iff] at empty
    omega
  have start_lt := bounded.start_lt_of_pos (by omega)
  have capacity_lt := queue.mCapacity.toInt_lt
  have succ : (queue.mStart + 1).toInt = queue.mStart.toInt + 1 := toInt_succ_of_lt (by omega)
  have pred : (queue.mSize - 1).toInt = queue.mSize.toInt - 1 := toInt_pred_of_lt (by omega)
  obtain ⟨rest, remains, rest_eq⟩ :=
    remainder_of_pos (a := queue.mStart + 1) (b := queue.mCapacity) (by omega) (by omega)
  rw [succ] at rest_eq
  have rest_nonneg : 0 ≤ rest.toInt := rest_eq ▸ Int.emod_nonneg _ (by omega)
  have rest_lt : rest.toInt < queue.mCapacity.toInt := rest_eq ▸ Int.emod_lt_of_pos _ (by omega)
  rw [remains, Option.map_some]
  refine ⟨_, rfl, ⟨?_, ?_, rest_nonneg, .inl rest_lt⟩, rfl, ?_⟩
  · dsimp only
    omega
  · dsimp only
    omega
  · have next_start : rest.toNatClampNeg =
        (queue.toQueue.mStart + 1) % queue.toQueue.mCapacity := by
      zify
      rw [toNatClampNeg_cast rest_nonneg, rest_eq, capacity, start]
    have next_size : (queue.mSize - 1).toNatClampNeg = queue.toQueue.mSize - 1 := by
      rw [Int32.toNatClampNeg, pred]
      omega
    simp only [toQueue, next_start, next_size]

/-- Marking slots of a region stays within the bounds. -/
theorem markAsWritten_refines (bounded : queue.Bounded) {count : Int32} (nonneg : 0 ≤ count.toInt)
    (free : queue.mSize.toInt + count.toInt ≤ queue.mCapacity.toInt) :
    (queue.markAsWritten count).Bounded ∧
      (queue.markAsWritten count).toQueue = queue.toQueue.markAsWritten count.toNatClampNeg := by
  have size_nonneg := bounded.size_nonneg
  have capacity_lt := queue.mCapacity.toInt_lt
  have sum : (queue.mSize + count).toInt = queue.mSize.toInt + count.toInt :=
    toInt_add_of_fits (by omega) (by omega)
  refine ⟨⟨?_, ?_, bounded.start_nonneg, bounded.start_lt⟩, ?_⟩
  · rw [markAsWritten, sum]
    omega
  · rw [markAsWritten, sum]
    exact free
  · have next_size : (queue.mSize + count).toNatClampNeg =
        queue.toQueue.mSize + count.toNatClampNeg := by
      zify
      rw [toNatClampNeg_cast (by omega), sum, toNatClampNeg_cast nonneg, bounded.casts.2.2]
    simp only [toQueue, markAsWritten, SensorEventQueue.markAsWritten, next_size]

/-- No remainder is by zero: a queue without slots is full. -/
theorem getWritableRegion_ne_none (bounded : queue.Bounded) (requestedLength : Int32) :
    queue.getWritableRegion requestedLength ≠ none := by
  unfold getWritableRegion
  split
  next => exact Option.some_ne_none _
  next granted =>
    have slots : queue.mCapacity ≠ 0 := by
      intro empty
      have zero := congrArg Int32.toInt empty
      have size_nonneg := bounded.size_nonneg
      have size_le := bounded.size_le
      rw [Int32.toInt_zero] at zero
      exact granted (.inl (Int32.toInt_inj.mp (by omega)))
    rw [remainder, if_neg slots]
    exact Option.some_ne_none _

/-! ## Regions -/

/-- What a writer relies on from getting a region until marking it as written. -/
structure Reserved (queue : IntQueue Event) (length : Int32) (out : Option Int32) : Prop where
  nonneg : 0 ≤ length.toInt
  null : out = none → length = 0
  region : ∀ first, out = some first → 0 ≤ first.toInt ∧
    queue.toQueue.Region first.toNatClampNeg length.toNatClampNeg

/-- An empty region needs no pointer. -/
theorem Reserved.null_region : queue.Reserved 0 none := by
  refine ⟨le_rfl, fun _ => rfl, ?_⟩
  rintro _ ⟨⟩

/-- `length` slots from `first` on: in the array, outside of the readable ones, and where the
next events go. -/
structure Writable (queue : IntQueue Event) (first length : Int32) : Prop where
  inArray : 0 ≤ first.toInt ∧ first.toInt + length.toInt ≤ queue.mCapacity.toInt
  outside : ∀ slot place : Int, first.toInt ≤ slot → slot < first.toInt + length.toInt →
    0 ≤ place → place < queue.mSize.toInt →
    (queue.mStart.toInt + place) % queue.mCapacity.toInt ≠ slot
  behind : first.toInt = (queue.mStart.toInt + queue.mSize.toInt) % queue.mCapacity.toInt
  written : ∀ count : Int32, 0 ≤ count.toInt → count.toInt ≤ length.toInt →
    (queue.markAsWritten count).toQueue.readable = queue.toQueue.readable ++
      (List.range count.toNatClampNeg).map fun place => queue.mData (first.toNatClampNeg + place)

/-- The slots of a region are writable. -/
theorem Reserved.writable (bounded : queue.Bounded) {length first : Int32}
    (reserved : queue.Reserved length (some first)) : queue.Writable first length := by
  obtain ⟨first_nonneg, region⟩ := reserved.region first rfl
  obtain ⟨capacity, start, size⟩ := bounded.casts
  have first_cast := toNatClampNeg_cast first_nonneg
  have length_cast := toNatClampNeg_cast reserved.nonneg
  have inArray := region.inArray
  refine ⟨⟨first_nonneg, by omega⟩, ?_, ?_, ?_⟩
  · intro slot place low high place_nonneg readable
    have valid := bounded.valid (by omega)
    lift slot to Nat using first_nonneg.trans low
    lift place to Nat using place_nonneg
    have apart : (queue.toQueue.mStart + place) % queue.toQueue.mCapacity ≠ slot :=
      region.outside valid (by omega) (by omega) (by omega)
    rw [← start, ← capacity]
    exact_mod_cast apart
  · rw [← first_cast, ← start, ← size, ← capacity]
    exact_mod_cast region.behind
  · intro count nonneg bound
    have free := region.free
    have count_cast := toNatClampNeg_cast nonneg
    rw [(markAsWritten_refines bounded nonneg (by omega)).2]
    exact SensorEventQueue.readable_markAsWritten region (by omega)

/-- A region stays one when an event is taken. -/
theorem Reserved.dequeue {length : Int32} {out : Option Int32}
    (reserved : queue.Reserved length out) {next : IntQueue Event}
    (refines : next.toQueue = queue.toQueue.dequeue) : next.Reserved length out := by
  refine ⟨reserved.nonneg, reserved.null, fun first returned => ?_⟩
  obtain ⟨first_nonneg, region⟩ := reserved.region first returned
  rw [refines]
  exact ⟨first_nonneg, region.dequeue⟩

/-- The slots of a region are enough for any count up to its length. -/
theorem Reserved.free (bounded : queue.Bounded) {length : Int32} {out : Option Int32}
    (reserved : queue.Reserved length out) :
    queue.mSize.toInt + length.toInt ≤ queue.mCapacity.toInt := by
  obtain ⟨capacity, start, size⟩ := bounded.casts
  have length_cast := toNatClampNeg_cast reserved.nonneg
  cases out with
  | none =>
      rw [reserved.null rfl, Int32.toInt_zero, add_zero]
      exact bounded.size_le
  | some first =>
      have free := (reserved.region first rfl).2.free
      omega

/-- A region is as long as the request and the space allow, and not empty if there is space. -/
theorem getWritableRegion_reserved (bounded : queue.Bounded)
    (small : queue.mCapacity.toInt ≤ 2 ^ 30) {requestedLength : Int32}
    (fits : queue.mCapacity.toInt + requestedLength.toInt < 2 ^ 31) :
    ∃ length out, queue.getWritableRegion requestedLength = some (length, out) ∧
      queue.Reserved length out ∧
      length.toInt ≤ min queue.mCapacity.toInt (max requestedLength.toInt 0) ∧
      (queue.mSize.toInt < queue.mCapacity.toInt → 0 < requestedLength.toInt →
        1 ≤ length.toInt ∧ out ≠ none) := by
  by_cases refused : queue.mSize = queue.mCapacity ∨ requestedLength ≤ 0
  · refine ⟨0, none, if_pos refused, Reserved.null_region, ?_, ?_⟩
    · rw [Int32.toInt_zero]
      exact le_min bounded.capacity_nonneg (le_max_right _ _)
    · intro space requested
      rcases refused with full | nothing
      · rw [full] at space
        exact absurd space (lt_irrefl _)
      · exact absurd requested (Int.not_lt.mpr (Int32.le_iff_toInt_le.mp nothing))
  obtain ⟨length, out, returned, refines, first_nonneg⟩ :=
    getWritableRegion_refines bounded small fits
  obtain ⟨notFull, requested⟩ := not_or.mp (mt (refused_iff bounded requestedLength).mpr refused)
  obtain ⟨capacity, -, size⟩ := bounded.casts
  have size_nonneg := bounded.size_nonneg
  have size_le := bounded.size_le
  have positive : 0 < requestedLength.toInt.toNat := by omega
  have request : ((requestedLength.toInt.toNat : Nat) : Int) = requestedLength.toInt :=
    Int.toNat_of_nonneg (by omega)
  obtain ⟨slot, slots, region, some_slot, le_request, free⟩ :=
    SensorEventQueue.getWritableRegion_region (bounded.valid (by omega))
      (by simpa [SensorEventQueue.isFull] using notFull) positive
  rw [request, refines, Prod.mk.injEq] at region
  obtain ⟨length_eq, out_eq⟩ := region
  obtain ⟨first, rfl, first_eq⟩ := Option.map_eq_some_iff.mp out_eq
  have inArray := free.inArray
  refine ⟨length, some first, returned, ⟨by omega, ?_, ?_⟩, ?_, ?_⟩
  · exact fun absent => absurd absent (Option.some_ne_none _)
  · rintro _ ⟨⟩
    refine ⟨first_nonneg first rfl, ?_⟩
    rw [first_eq, Int32.toNatClampNeg, length_eq, Int.toNat_natCast]
    exact free
  · omega
  · exact fun _ _ => ⟨by omega, Option.some_ne_none _⟩

end IntQueue

/-! ## Runs -/

/-- A queue and the last region that was returned since `markAsWritten`. -/
structure Writing (Event : Type u) where
  queue : IntQueue Event
  region : Option (Int32 × Option Int32)

/-- The operations on a queue, and the writes of the device into the region it got. -/
inductive QueueOperation (Event : Type u) where
  | getWritableRegion (requestedLength : Int32)
  | write (slot : Nat) (event : Event)
  | markAsWritten (count : Int32)
  | dequeue

namespace Writing

/-- What an operation does; one that divides by zero has no next state. -/
def after (state : Writing Event) : QueueOperation Event → Option (Writing Event)
  | .getWritableRegion requestedLength =>
      (state.queue.getWritableRegion requestedLength).map fun region =>
        { state with region := some region }
  | .write slot event => some { state with queue := state.queue.write slot event }
  | .markAsWritten count => some ⟨state.queue.markAsWritten count, none⟩
  | .dequeue => state.queue.dequeue.map fun queue => { state with queue := queue }

/-- The duty of the writer: it writes into its last region and marks no more than that as
written. `Requested` and `Counted` restrict the arguments further. -/
def Allowed (Requested : Int32 → Int32 → Prop) (Counted : Int32 → Prop) (state : Writing Event) :
    QueueOperation Event → Prop
  | .getWritableRegion requestedLength => Requested state.queue.mCapacity requestedLength
  | .write slot _ => ∃ length first, state.region = some (length, some first) ∧
      first.toInt ≤ slot ∧ slot < first.toInt + length.toInt
  | .markAsWritten count => Counted count ∧
      ∃ length out, state.region = some (length, out) ∧ count.toInt ≤ length.toInt
  | .dequeue => True

/-- The runs on a new queue. -/
def runs (Requested : Int32 → Int32 → Prop) (Counted : Int32 → Prop) (capacity : Int32)
    (mData : Nat → Event) : TransitionSystem (Writing Event) :=
  .ofActions (fun state => state = ⟨.new capacity mData, none⟩)
    (fun state operation next => state.after operation = some next) (Allowed Requested Counted)

/-- The end of a request behind the array is an `int`. -/
def Fits (capacity requestedLength : Int32) : Prop :=
  capacity.toInt + requestedLength.toInt < 2 ^ 31

instance (capacity requestedLength : Int32) : Decidable (Fits capacity requestedLength) :=
  inferInstanceAs (Decidable (_ < _))

/-- A number of events. -/
def Nonneg (count : Int32) : Prop := 0 ≤ count.toInt

instance (count : Int32) : Decidable (Nonneg count) := inferInstanceAs (Decidable (_ ≤ _))

/-- The invariant of the runs that keep to the bounds. -/
structure Kept (capacity : Int32) (state : Writing Event) : Prop where
  bounded : state.queue.Bounded
  capacity_eq : state.queue.mCapacity = capacity
  reserved : ∀ length out, state.region = some (length, out) → state.queue.Reserved length out

/-- An allowed operation keeps the queue and its region. -/
theorem after_kept {capacity : Int32} (small : capacity.toInt ≤ 2 ^ 30)
    {state next : Writing Event} (kept : state.Kept capacity) {operation : QueueOperation Event}
    (allowed : state.Allowed Fits Nonneg operation) (step : state.after operation = some next) :
    next.Kept capacity := by
  obtain ⟨bounded, rfl, reserved⟩ := kept
  cases operation with
  | getWritableRegion requestedLength =>
      obtain ⟨length, out, returned, region, -⟩ :=
        IntQueue.getWritableRegion_reserved bounded small allowed
      rw [after, returned] at step
      cases step
      refine ⟨bounded, rfl, ?_⟩
      rintro _ _ ⟨⟩
      exact region
  | write slot event =>
      cases step
      refine ⟨⟨bounded.1, bounded.2, bounded.3, bounded.4⟩, rfl, fun length out last => ?_⟩
      obtain ⟨nonneg, null, region⟩ := reserved length out last
      exact ⟨nonneg, null, fun first returned =>
        ⟨(region first returned).1, ⟨(region first returned).2.1, (region first returned).2.2,
          (region first returned).2.3⟩⟩⟩
  | markAsWritten count =>
      cases step
      obtain ⟨nonneg, length, out, last, bound⟩ := allowed
      have free := (reserved length out last).free bounded
      refine ⟨(IntQueue.markAsWritten_refines bounded nonneg (by omega)).1, rfl, ?_⟩
      rintro _ _ ⟨⟩
  | dequeue =>
      obtain ⟨queue, taken, next_bounded, same, refines⟩ := IntQueue.dequeue_refines bounded
      rw [after, taken] at step
      cases step
      exact ⟨next_bounded, same, fun length out last => (reserved length out last).dequeue refines⟩

/-- Every reachable state keeps its queue and region. -/
theorem reachable_kept {capacity : Int32} (nonneg : 0 ≤ capacity.toInt)
    (small : capacity.toInt ≤ 2 ^ 30) {mData : Nat → Event} {state : Writing Event}
    (reachable : (runs Fits Nonneg capacity mData).Reachable state) : state.Kept capacity := by
  refine TransitionSystem.invariant ?_ ?_ reachable
  · rintro _ rfl
    refine ⟨.new nonneg mData, rfl, ?_⟩
    rintro _ _ ⟨⟩
  · rintro state next kept ⟨operation, allowed, step⟩
    exact after_kept small kept allowed step

variable {Requested : Int32 → Int32 → Prop} {Counted : Int32 → Prop} {capacity : Int32}
  {mData : Nat → Event}

/-- A run goes on with a region, of which `count` slots are marked as written. -/
theorem reachable_marked {queue : IntQueue Event} {region : Option (Int32 × Option Int32)}
    (reachable : (runs Requested Counted capacity mData).Reachable ⟨queue, region⟩)
    (requestedLength count : Int32) {length : Int32} {out : Option Int32}
    (requested : Requested queue.mCapacity requestedLength)
    (returned : queue.getWritableRegion requestedLength = some (length, out))
    (counted : Counted count) (bound : count.toInt ≤ length.toInt) :
    (runs Requested Counted capacity mData).Reachable ⟨queue.markAsWritten count, none⟩ := by
  have got : (runs Requested Counted capacity mData).Reachable ⟨queue, some (length, out)⟩ := by
    refine .step reachable ⟨.getWritableRegion requestedLength, requested, ?_⟩
    simp only [after, returned, Option.map_some]
  exact .step got ⟨.markAsWritten count, ⟨counted, length, out, rfl, bound⟩, rfl⟩

/-- A run goes on by taking events one by one. -/
theorem reachable_dequeued (slots events : Nat) (events_lt : events < slots)
    (slots_lt : slots < 2 ^ 31) {region : Option (Int32 × Option Int32)}
    (reachable : (runs Requested Counted capacity mData).Reachable
      ⟨⟨.ofNat slots, 0, .ofNat events, mData⟩, region⟩) {taken : Nat} (bound : taken ≤ events) :
    (runs Requested Counted capacity mData).Reachable
      ⟨⟨.ofNat slots, .ofNat taken, .ofNat (events - taken), mData⟩, region⟩ := by
  induction taken with
  | zero => exact reachable
  | succ taken ih =>
      refine .step (ih (by omega)) ⟨.dequeue, trivial, ?_⟩
      have toInt_slots : (Int32.ofNat slots).toInt = slots := Int32.toInt_ofNat_of_lt slots_lt
      have toInt_taken : (Int32.ofNat taken).toInt = taken := Int32.toInt_ofNat_of_lt (by omega)
      have toInt_left : (Int32.ofNat (events - taken)).toInt = (events - taken : Nat) :=
        Int32.toInt_ofNat_of_lt (by omega)
      have nonempty : Int32.ofNat (events - taken) ≠ 0 := by
        rw [Ne, ← Int32.toInt_inj, toInt_left, Int32.toInt_zero]
        omega
      have succ : (Int32.ofNat taken + 1).toInt = taken + 1 := by
        rw [toInt_succ_of_lt (by omega), toInt_taken]
      obtain ⟨rest, remains, rest_eq⟩ := remainder_of_pos (a := .ofNat taken + 1)
        (b := .ofNat slots) (by omega) (by omega)
      have start_eq : rest = .ofNat (taken + 1) := by
        rw [← Int32.toInt_inj, rest_eq, succ, toInt_slots, Int32.toInt_ofNat_of_lt (by omega),
          Int.emod_eq_of_lt (by omega) (by omega)]
        rfl
      have size_eq : Int32.ofNat (events - taken) - 1 = .ofNat (events - (taken + 1)) := by
        rw [← Int32.toInt_inj, toInt_pred_of_lt (by omega), toInt_left,
          Int32.toInt_ofNat_of_lt (by omega)]
        omega
      simp only [after, IntQueue.dequeue, if_neg nonempty, remains, start_eq, size_eq,
        Option.map_some]

/-- In every state of a run that keeps to the bounds, the fields are in theirs, no operation
divides by zero, every request gets a region as long as it and the space allow, and the last
region stays writable whatever has been taken since. -/
theorem reachable_regions {capacity : Int32} (nonneg : 0 ≤ capacity.toInt)
    (small : capacity.toInt ≤ 2 ^ 30) {mData : Nat → Event} {state : Writing Event}
    (reachable : (runs Fits Nonneg capacity mData).Reachable state) :
    state.queue.mCapacity = capacity ∧ state.queue.Bounded ∧ state.queue.dequeue ≠ none ∧
      (∀ requestedLength, state.queue.getWritableRegion requestedLength ≠ none) ∧
      (∀ requestedLength, Fits capacity requestedLength →
        ∃ length out, state.queue.getWritableRegion requestedLength = some (length, out) ∧
          0 ≤ length.toInt ∧ length.toInt ≤ min capacity.toInt (max requestedLength.toInt 0) ∧
          (state.queue.mSize.toInt < capacity.toInt → 0 < requestedLength.toInt →
            1 ≤ length.toInt ∧ out ≠ none) ∧
          (out = none → length = 0) ∧
          ∀ first, out = some first → state.queue.Writable first length) ∧
      ∀ length first, state.region = some (length, some first) →
        state.queue.Writable first length := by
  obtain ⟨bounded, rfl, reserved⟩ := reachable_kept nonneg small reachable
  refine ⟨rfl, bounded, ?_, IntQueue.getWritableRegion_ne_none bounded, ?_, ?_⟩
  · obtain ⟨next, taken, -⟩ := IntQueue.dequeue_refines bounded
    rw [taken]
    exact Option.some_ne_none _
  · intro requestedLength fits
    obtain ⟨length, out, returned, region, bound, space⟩ :=
      IntQueue.getWritableRegion_reserved bounded small fits
    refine ⟨length, out, returned, region.nonneg, bound, space, region.null, ?_⟩
    rintro first rfl
    exact region.writable bounded
  · exact fun length first last => (reserved length _ last).writable bounded

theorem reachable_regions_dequeued :
    (⟨36, 1, 2, fun _ => ()⟩ : IntQueue Unit).Bounded ∧
      ∃ length first, (⟨36, 1, 2, fun _ => ()⟩ : IntQueue Unit).getWritableRegion 36 =
        some (length, some first) ∧ 1 ≤ length.toInt := by
  have start : (runs Fits Nonneg 36 fun _ => ()).Reachable ⟨.new 36 fun _ => (), none⟩ :=
    .initial rfl
  have filled := reachable_marked start 5 3 (by decide) rfl (by decide) (by decide)
  have taken : (runs Fits Nonneg 36 fun _ => ()).Reachable ⟨⟨36, 1, 2, fun _ => ()⟩, none⟩ :=
    .step filled ⟨.dequeue, trivial, rfl⟩
  obtain ⟨-, bounded, -, -, regions, -⟩ := reachable_regions (by decide) (by decide) taken
  obtain ⟨length, out, returned, -, -, space, -⟩ := regions 36 (by decide)
  obtain ⟨positive, found⟩ := space (by decide) (by decide)
  obtain ⟨first, rfl⟩ := Option.ne_none_iff_exists'.mp found
  exact ⟨bounded, length, first, returned, positive⟩

/-- Outside of these bounds the regions fail: a negative request gets more than it asks for;
a request whose end wraps, or a negative count, makes the size negative; and from a capacity of
`2 ^ 30 + 1` on the sum in `getWritableRegion` wraps, to an index before the array. -/
theorem regions_outside_bounds :
    (∃ state, (runs Fits Nonneg 36 fun _ => ()).Reachable state ∧
        state.queue.getWritableRegion (-1) = some (0, none) ∧ ¬ (0 : Int) ≤ min 36 (-1)) ∧
      (∃ state, (runs (fun _ _ => True) Nonneg 36 fun _ => ()).Reachable state ∧
        state.queue.mSize.toInt < 0) ∧
      (∃ state, (runs Fits (fun _ => True) 36 fun _ => ()).Reachable state ∧
        state.queue.mSize.toInt < 0) ∧
      ∃ state, (runs Fits Nonneg 1073741825 fun _ => ()).Reachable state ∧
        ∃ first, state.queue.getWritableRegion 1 = some (1, some first) ∧ first.toInt < 0 := by
  refine ⟨⟨_, .initial rfl, rfl, by decide⟩, ?_, ?_, ?_⟩
  · have start : (runs (fun _ _ => True) Nonneg 36 fun _ => ()).Reachable
        ⟨.new 36 fun _ => (), none⟩ := .initial rfl
    have two := reachable_marked start 2 2 trivial rfl (by decide) (by decide)
    exact ⟨_, reachable_marked two 2147483647 2147483647 trivial rfl (by decide) (by decide),
      by decide⟩
  · have start : (runs Fits (fun _ => True) 36 fun _ => ()).Reachable
        ⟨.new 36 fun _ => (), none⟩ := .initial rfl
    exact ⟨_, reachable_marked start 1 (-1) (by decide) rfl trivial (by decide), by decide⟩
  · have start : (runs Fits Nonneg 1073741825 fun _ => ()).Reachable
        ⟨.new 1073741825 fun _ => (), none⟩ := .initial rfl
    have most := reachable_marked start 1073741822 1073741822 (by decide) rfl (by decide)
      (by decide)
    have filled := reachable_marked most 2 2 (by decide) rfl (by decide) (by decide)
    have emptied := reachable_dequeued 1073741825 1073741824 (by decide) (by decide) filled le_rfl
    -- The readable events now wrap around the end of the array.
    have last := reachable_marked emptied 1 1 (by decide) rfl (by decide) (by decide)
    have wrapped := reachable_marked last 1073741822 1073741822 (by decide) rfl (by decide)
      (by decide)
    have full := reachable_marked wrapped 1 1 (by decide) rfl (by decide) (by decide)
    exact ⟨_, full, _, rfl, by decide⟩

end Writing

end T00F.Sensors
