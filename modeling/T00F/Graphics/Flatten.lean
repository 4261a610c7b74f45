import T00F.Graphics.GraphicBuffer

/-!
# Flattening several buffers

Buffer objects are flattened one after another and unflattened again.
`unflattenAll_flattenAll` says that they come back, since both directions move their
cursors alike. `roundTrip_iff` says that the pointer is never in step with the size, and
`flattenAll_inside_iff` that two objects are enough to write behind the buffer.
-/

namespace T00F.Graphics

open Systems

/-- A handle with a descriptor or an int, and fewer of them than `unflatten` accepts. -/
structure WithinLimits (object : GraphicBuffer) : Prop where
  handle : object.handle.isSome
  nonempty : object.numFds ≠ 0 ∨ object.numInts ≠ 0
  numFds_lt : object.numFds < maxNumber
  numInts_lt : object.numInts < maxNumber - 10

/-- The objects have the same fields, id, ints and descriptors. -/
structure SameContents (copy object : GraphicBuffer) : Prop where
  width : copy.width = object.width
  height : copy.height = object.height
  stride : copy.stride = object.stride
  format : copy.format = object.format
  usage : copy.usage = object.usage
  id : copy.mId = object.mId
  handle : copy.handle = object.handle

/-- Some calls of `flatten`, each with the cursor before it. -/
def flattenAll : List GraphicBuffer → Cursor → Memory → List (Cursor × Flattening) × Cursor × Memory
  | [], cursor, memory => ([], cursor, memory)
  | object :: rest, cursor, memory =>
      let call := flatten object cursor memory
      let (calls, final) := flattenAll rest call.cursor call.memory
      ((cursor, call) :: calls, final)

/-- Some calls of `unflatten` for which all calls that they make succeed. -/
def unflattenAll : List GraphicBuffer → Cursor → Memory → List Unflattening × Cursor
  | [], cursor, _ => ([], cursor)
  | object :: rest, cursor, memory =>
      let call := unflatten ⟨true, noError⟩ memory object cursor
      let (calls, final) := unflattenAll rest call.cursor memory
      (call :: calls, final)

def totalSize (objects : List GraphicBuffer) : Nat :=
  (objects.map GraphicBuffer.getFlattenedSize).sum

def totalFds (objects : List GraphicBuffer) : Nat := (objects.map GraphicBuffer.getFdCount).sum

/-- The sizes of objects add up. -/
@[simp] theorem totalSize_cons (object : GraphicBuffer) (rest : List GraphicBuffer) :
    totalSize (object :: rest) = object.getFlattenedSize + totalSize rest := rfl

/-- The descriptors of objects add up. -/
@[simp] theorem totalFds_cons (object : GraphicBuffer) (rest : List GraphicBuffer) :
    totalFds (object :: rest) = object.numFds + totalFds rest := rfl

/-- A cursor at the start of a buffer and an array of exactly the sizes that are needed. -/
def Cursor.start (objects : List GraphicBuffer) : Cursor :=
  ⟨0, totalSize objects, 0, totalFds objects⟩

/-- Flattening the objects succeeds inside of the buffer, each call moves the pointer by as
many bytes as it takes off the size, and unflattening gives the objects back. -/
structure RoundTrip (objects : List GraphicBuffer) (memory : Memory) : Prop where
  flattened : ∀ call ∈ (flattenAll objects (.start objects) memory).1, call.2.status = noError
  inside : ∀ call ∈ (flattenAll objects (.start objects) memory).1,
    (∀ place ∈ call.2.words, (place + 1) * 4 ≤ totalSize objects) ∧
      ∀ place ∈ call.2.fds, place < totalFds objects
  inStep : ∀ call ∈ (flattenAll objects (.start objects) memory).1,
    call.2.cursor.buffer * 4 + call.2.cursor.size = call.1.buffer * 4 + call.1.size
  unflattened : ∀ targets : List GraphicBuffer, targets.length = objects.length →
    let result := unflattenAll targets (.start objects)
      (flattenAll objects (.start objects) memory).2.2
    List.Forall₂ (fun call object => call.status = noError ∧ SameContents call.object object)
        result.1 objects ∧
      result.2.size = 0 ∧ result.2.count = 0

/-- Where an object moves the cursor, in both directions. -/
def Cursor.past (cursor : Cursor) (object : GraphicBuffer) : Cursor where
  buffer := cursor.buffer + object.getFlattenedSize
  size := cursor.size - object.getFlattenedSize
  fds := cursor.fds + object.numFds
  count := cursor.count - object.numFds

/-! ## One object -/

/-- The mask of the low word has the first 32 bits. -/
theorem mask_bit {bit : Nat} (inside : bit < 64) :
    (0xFFFFFFFF#64).getLsbD bit = decide (bit < 32) := by
  have all : ∀ bit < 64, (0xFFFFFFFF#64).getLsbD bit = decide (bit < 32) := by decide
  exact all bit inside

/-- The sign extension of the upper half is shifted out. -/
theorem idOf_halves (id : BitVec 64) :
    idOf ((id >>> 32).setWidth 32) ((id &&& 0xFFFFFFFF#64).setWidth 32) = id := by
  apply BitVec.eq_of_getLsbD_eq
  intro bit inside
  simp only [idOf, BitVec.getLsbD_or, BitVec.getLsbD_shiftLeft, BitVec.getLsbD_setWidth,
    BitVec.getLsbD_and, BitVec.getLsbD_signExtend, BitVec.getLsbD_ushiftRight, mask_bit inside]
  rcases Nat.lt_or_ge bit 32 with low | high
  · simp [low, inside]
  · have same : 32 + (bit - 32) = bit := by omega
    have first : bit - 32 < 32 := by omega
    have within : bit - 32 < 64 := by omega
    have upper : ¬ bit < 32 := by omega
    simp [first, same, inside, within, upper]

/-- An object takes ten words and those of its handle. -/
theorem length_flatWords (object : GraphicBuffer) :
    object.flatWords.length = 10 + object.numInts := by
  unfold GraphicBuffer.flatWords GraphicBuffer.numInts
  cases object.handle with
  | none => rfl
  | some handle => simp; omega

/-- An object takes the descriptors of its handle. -/
theorem length_flatFds (object : GraphicBuffer) : object.flatFds.length = object.numFds := by
  unfold GraphicBuffer.flatFds GraphicBuffer.numFds
  cases object.handle with
  | none => rfl
  | some handle => rfl

/-- The memory holds what `flatten` writes for an object. -/
structure Stored (object : GraphicBuffer) (cursor : Cursor) (memory : Memory) : Prop where
  words : loadRun memory.words cursor.buffer object.flatWords.length = object.flatWords
  fds : loadRun memory.fds cursor.fds object.flatFds.length = object.flatFds

/-- A word of the header. -/
theorem Stored.word {object : GraphicBuffer} {cursor : Cursor} {memory : Memory}
    (stored : Stored object cursor memory) {index : Nat} {word : Word}
    (found : object.flatWords[index]? = some word) :
    memory.words (cursor.buffer + index) = word := by
  obtain ⟨inside, _⟩ := List.getElem?_eq_some_iff.mp found
  rw [← stored.words, loadRun, List.getElem?_map, List.getElem?_range inside] at found
  exact Option.some.inj found

/-- The words of the handle are loaded back. -/
theorem Stored.ints {object : GraphicBuffer} {handle : NativeHandle}
    (owned : object.handle = some handle) {cursor : Cursor} {memory : Memory}
    (stored : Stored object cursor memory) :
    loadRun memory.words (cursor.buffer + 10) handle.ints.length = handle.ints := by
  have numInts : object.numInts = handle.ints.length := by rw [GraphicBuffer.numInts, owned]; rfl
  have tail : object.flatWords.drop 10 = handle.ints := by rw [GraphicBuffer.flatWords, owned]; rfl
  have read := congrArg (List.drop 10) stored.words
  rwa [drop_loadRun, length_flatWords, Nat.add_sub_cancel_left, tail, numInts] at read

/-- The descriptors of the handle are loaded back. -/
theorem Stored.handleFds {object : GraphicBuffer} {handle : NativeHandle}
    (owned : object.handle = some handle) {cursor : Cursor} {memory : Memory}
    (stored : Stored object cursor memory) :
    loadRun memory.fds cursor.fds handle.fds.length = handle.fds := by
  have fds : object.flatFds = handle.fds := by rw [GraphicBuffer.flatFds, owned]; rfl
  rw [← fds]
  exact stored.fds

/-- `unflatten` reads back what is stored, into any object. -/
theorem unflatten_stored {object : GraphicBuffer} (within : WithinLimits object) {cursor : Cursor}
    {memory : Memory} (stored : Stored object cursor memory)
    (size : object.getFlattenedSize ≤ cursor.size) (count : object.getFdCount ≤ cursor.count)
    (target : GraphicBuffer) :
    let call := unflatten ⟨true, noError⟩ memory target cursor
    call.status = noError ∧ SameContents call.object object ∧
      call.cursor = cursor.past object := by
  obtain ⟨owned, nonempty, numFds_lt, numInts_lt⟩ := within
  obtain ⟨handle, owned⟩ := Option.isSome_iff_exists.mp owned
  have numFds : object.numFds = handle.fds.length := by rw [GraphicBuffer.numFds, owned]; rfl
  have numInts : object.numInts = handle.ints.length := by rw [GraphicBuffer.numInts, owned]; rfl
  have magic : memory.words (cursor.buffer + 0) = gbfr := stored.word rfl
  have fdWord : headerFds memory cursor = object.numFds := by
    have word : object.flatWords[8]? = some (BitVec.ofNat 32 object.numFds) := rfl
    rw [headerFds, buf, stored.word word, BitVec.toNat_ofNat]
    exact Nat.mod_eq_of_lt (by unfold maxNumber at numFds_lt; omega)
  have intWord : headerInts memory cursor = object.numInts := by
    have word : object.flatWords[9]? = some (BitVec.ofNat 32 object.numInts) := rfl
    rw [headerInts, buf, stored.word word, BitVec.toNat_ofNat]
    exact Nat.mod_eq_of_lt (by unfold maxNumber at numInts_lt; omega)
  have sizeNeeded : object.getFlattenedSize = (10 + object.numInts) * 4 := rfl
  have header : HasHeader memory cursor := ⟨by omega, magic⟩
  have few : ¬ TooLarge memory cursor := by
    rw [TooLarge, fdWord, intWord]
    omega
  have enough : Enough memory cursor := ⟨by rwa [intWord], by rwa [fdWord]⟩
  intro call
  have run : call = unflattenHandle ⟨true, noError⟩ memory target cursor object.numFds
      object.numInts := by
    rw [← fdWord, ← intWord]
    exact unflatten_enough header few enough
  rw [run]
  simp only [unflattenHandle, if_pos nonempty, Bool.not_true, Bool.false_eq_true, if_false, ne_eq,
    not_true_eq_false, true_and]
  refine ⟨?_, rfl⟩
  constructor
  case width => exact stored.word rfl
  case height => exact stored.word rfl
  case stride => exact stored.word rfl
  case format => exact stored.word rfl
  case usage => exact stored.word rfl
  case id =>
    have high : object.flatWords[6]? = some ((object.mId >>> 32).setWidth 32) := rfl
    have low : object.flatWords[7]? = some ((object.mId &&& 0xFFFFFFFF#64).setWidth 32) := rfl
    rw [stored.word high, stored.word low]
    exact idOf_halves object.mId
  case handle => rw [numFds, numInts, stored.handleFds owned, stored.ints owned, owned]

/-! ## Several objects -/

/-- With room for the object, `flatten` succeeds and moves the cursor on. -/
theorem flatten_fits {object : GraphicBuffer} {cursor : Cursor}
    (size : object.getFlattenedSize ≤ cursor.size) (count : object.getFdCount ≤ cursor.count)
    (memory : Memory) :
    let call := flatten object cursor memory
    call.status = noError ∧
      call.cursor = cursor.past object ∧
      Stored object cursor call.memory := by
  intro call
  have run : call = flatten object cursor memory := rfl
  rw [flatten, if_neg (Nat.not_lt.mpr size), if_neg (Nat.not_lt.mpr count)] at run
  rw [run]
  exact ⟨rfl, rfl, loadRun_storeRun _ _ _, loadRun_storeRun _ _ _⟩

/-- The memories agree before the cursor. -/
structure AgreeBefore (cursor : Cursor) (memory other : Memory) : Prop where
  words : ∀ place < cursor.buffer, other.words place = memory.words place
  fds : ∀ place < cursor.fds, other.fds place = memory.fds place

/-- `flatten` writes nothing before its cursor, and does not move it back. -/
theorem flatten_frame (object : GraphicBuffer) (cursor : Cursor) (memory : Memory) :
    let call := flatten object cursor memory
    cursor.buffer ≤ call.cursor.buffer ∧ cursor.fds ≤ call.cursor.fds ∧
      AgreeBefore cursor memory call.memory := by
  have same : AgreeBefore cursor memory memory := ⟨fun _ _ => rfl, fun _ _ => rfl⟩
  intro call
  simp only [call, flatten]
  split
  · exact ⟨Nat.le_refl _, Nat.le_refl _, same⟩
  · split
    · exact ⟨Nat.le_refl _, Nat.le_refl _, same⟩
    · exact ⟨Nat.le_add_right _ _, Nat.le_add_right _ _,
        fun _ before => storeRun_outside (Or.inl before),
        fun _ before => storeRun_outside (Or.inl before)⟩

/-- Flattening writes nothing before the cursor. -/
theorem flattenAll_frame (objects : List GraphicBuffer) (cursor : Cursor) (memory : Memory) :
    AgreeBefore cursor memory (flattenAll objects cursor memory).2.2 := by
  induction objects generalizing cursor memory with
  | nil => exact ⟨fun _ _ => rfl, fun _ _ => rfl⟩
  | cons object rest ih =>
      obtain ⟨buffer, fds, first⟩ := flatten_frame object cursor memory
      have later := ih (flatten object cursor memory).cursor (flatten object cursor memory).memory
      constructor
      · intro place before
        exact (later.words place (Nat.lt_of_lt_of_le before buffer)).trans
          (first.words place before)
      · intro place before
        exact (later.fds place (Nat.lt_of_lt_of_le before fds)).trans (first.fds place before)

/-- What is stored before the cursor stays when the memory agrees there. -/
theorem Stored.of_agree {object : GraphicBuffer} {cursor next : Cursor} {memory other : Memory}
    (stored : Stored object cursor memory) (agree : AgreeBefore next memory other)
    (words : cursor.buffer + object.flatWords.length ≤ next.buffer)
    (fds : cursor.fds + object.flatFds.length ≤ next.fds) : Stored object cursor other where
  words := by
    rw [loadRun_congr fun place _ high => agree.words place (Nat.lt_of_lt_of_le high words)]
    exact stored.words
  fds := by
    rw [loadRun_congr fun place _ high => agree.fds place (Nat.lt_of_lt_of_le high fds)]
    exact stored.fds

/-- Into room of exactly the sizes that are needed all objects are flattened, and they are
unflattened from there, which consumes everything. -/
theorem unflattenAll_flattenAll {objects : List GraphicBuffer}
    (within : ∀ object ∈ objects, WithinLimits object) {cursor : Cursor}
    (size : cursor.size = totalSize objects) (count : cursor.count = totalFds objects)
    (memory : Memory) {targets : List GraphicBuffer} (same : targets.length = objects.length) :
    let flattened := flattenAll objects cursor memory
    let unflattened := unflattenAll targets cursor flattened.2.2
    (∀ call ∈ flattened.1, call.2.status = noError) ∧
      List.Forall₂ (fun call object => call.status = noError ∧ SameContents call.object object)
        unflattened.1 objects ∧
      unflattened.2.size = 0 ∧ unflattened.2.count = 0 := by
  induction objects generalizing cursor memory targets with
  | nil =>
      rw [List.length_nil, List.length_eq_zero_iff] at same
      rw [same]
      exact ⟨fun _ absent => (by cases absent), .nil, size, count⟩
  | cons object rest ih =>
      obtain ⟨target, others, rfl⟩ := List.exists_cons_of_length_eq_add_one same
      obtain ⟨here, later⟩ := List.forall_mem_cons.mp within
      rw [totalSize_cons] at size
      rw [totalFds_cons] at count
      have room : object.getFlattenedSize ≤ cursor.size := size ▸ Nat.le_add_right _ _
      have fdRoom : object.getFdCount ≤ cursor.count := count ▸ Nat.le_add_right _ _
      obtain ⟨status, moved, stored⟩ := flatten_fits room fdRoom memory
      -- The rest is flattened behind what the first object needs.
      have kept : Stored object cursor (flattenAll (object :: rest) cursor memory).2.2 := by
        apply stored.of_agree (flattenAll_frame rest _ _)
        · rw [moved, Cursor.past, length_flatWords, GraphicBuffer.getFlattenedSize]
          dsimp only
          omega
        · rw [moved, Cursor.past, length_flatFds]
      obtain ⟨read, contents, followed⟩ := unflatten_stored here kept room fdRoom target
      have restSize : (flatten object cursor memory).cursor.size = totalSize rest := by
        rw [moved, Cursor.past, size]
        exact Nat.add_sub_cancel_left _ _
      have restCount : (flatten object cursor memory).cursor.count = totalFds rest := by
        rw [moved, Cursor.past, count]
        exact Nat.add_sub_cancel_left _ _
      obtain ⟨flattened, unflattened, consumed⟩ := ih later restSize restCount
        (flatten object cursor memory).memory (Nat.succ.inj same)
      -- Both directions have moved their cursors alike.
      rw [← moved] at followed
      refine ⟨List.forall_mem_cons.mpr ⟨status, flattened⟩, ?_, ?_⟩
      · rw [unflattenAll]
        dsimp only
        rw [followed]
        exact .cons ⟨read, contents⟩ unflattened
      · rw [unflattenAll]
        dsimp only
        rw [followed]
        exact consumed


/-! ## The pointer -/

/-- A successful `flatten` moves the pointer three bytes too far for each byte that it takes
off the size. -/
theorem flatten_outOfStep {object : GraphicBuffer} {cursor : Cursor}
    (size : object.getFlattenedSize ≤ cursor.size) (count : object.getFdCount ≤ cursor.count)
    (memory : Memory) :
    let call := flatten object cursor memory
    call.cursor.buffer * 4 + call.cursor.size =
      cursor.buffer * 4 + cursor.size + 3 * object.getFlattenedSize := by
  intro call
  obtain ⟨_, moved, _⟩ := flatten_fits size count memory
  have followed : call.cursor = cursor.past object := moved
  rw [followed, Cursor.past]
  dsimp only
  omega

/-- No object is flattened to nothing. -/
theorem getFlattenedSize_pos (object : GraphicBuffer) : 0 < object.getFlattenedSize := by
  rw [GraphicBuffer.getFlattenedSize]
  omega

/-- `flatten` fills the words that it needs. -/
theorem flatten_words {object : GraphicBuffer} {cursor : Cursor}
    (size : object.getFlattenedSize ≤ cursor.size) (count : object.getFdCount ≤ cursor.count)
    (memory : Memory) {place : Nat} :
    place ∈ (flatten object cursor memory).words ↔
      cursor.buffer ≤ place ∧ place * 4 < cursor.buffer * 4 + object.getFlattenedSize := by
  rw [flatten, if_neg (Nat.not_lt.mpr size), if_neg (Nat.not_lt.mpr count)]
  simp only [List.mem_map, List.mem_range, length_flatWords, GraphicBuffer.getFlattenedSize]
  constructor
  · rintro ⟨index, inside, rfl⟩
    omega
  · rintro ⟨behind, inside⟩
    exact ⟨place - cursor.buffer, by omega, by omega⟩

/-- The sizes are taken off, so room for the rest is left. -/
theorem flatten_leaves {object : GraphicBuffer} {cursor : Cursor} {size count : Nat}
    (sizeRoom : object.getFlattenedSize + size ≤ cursor.size)
    (countRoom : object.numFds + count ≤ cursor.count) (memory : Memory) :
    let call := flatten object cursor memory
    size ≤ call.cursor.size ∧ count ≤ call.cursor.count := by
  intro call
  obtain ⟨_, moved, _⟩ := flatten_fits (Nat.le_trans (Nat.le_add_right _ _) sizeRoom)
    (Nat.le_trans (Nat.le_add_right _ _) countRoom) memory
  have followed : call.cursor = cursor.past object := moved
  rw [followed]
  exact ⟨Nat.le_sub_of_add_le' sizeRoom, Nat.le_sub_of_add_le' countRoom⟩

/-- The last object is written at least as far behind as all objects together need. -/
theorem flattenAll_reaches {objects : List GraphicBuffer} (nonempty : objects ≠ [])
    {cursor : Cursor} (size : totalSize objects ≤ cursor.size)
    (count : totalFds objects ≤ cursor.count) (memory : Memory) :
    ∃ call ∈ (flattenAll objects cursor memory).1, ∃ place ∈ call.2.words,
      cursor.buffer * 4 + totalSize objects ≤ (place + 1) * 4 := by
  induction objects generalizing cursor memory with
  | nil => exact absurd rfl nonempty
  | cons object rest ih =>
      rw [totalSize_cons] at size
      rw [totalFds_cons] at count
      have room : object.getFlattenedSize ≤ cursor.size :=
        Nat.le_trans (Nat.le_add_right _ _) size
      have fdRoom : object.getFdCount ≤ cursor.count := Nat.le_trans (Nat.le_add_right _ _) count
      by_cases last : rest = []
      · have written : cursor.buffer + (9 + object.numInts) ∈
            (flatten object cursor memory).words := by
          rw [flatten_words room fdRoom, GraphicBuffer.getFlattenedSize]
          omega
        refine ⟨_, List.mem_cons_self, _, written, ?_⟩
        rw [last, totalSize_cons, GraphicBuffer.getFlattenedSize]
        change cursor.buffer * 4 + ((10 + object.numInts) * 4 + 0) ≤ _
        omega
      · obtain ⟨_, moved, _⟩ := flatten_fits room fdRoom memory
        obtain ⟨restSize, restCount⟩ := flatten_leaves size count memory
        obtain ⟨call, made, place, written, reached⟩ := ih last restSize restCount
          (flatten object cursor memory).memory
        rw [moved, Cursor.past] at reached
        dsimp only at reached
        refine ⟨call, List.mem_cons_of_mem _ made, place, written, ?_⟩
        rw [totalSize_cons]
        omega

/-- All words are written inside of the buffer for at most one object. -/
theorem flattenAll_inside_iff (objects : List GraphicBuffer) (memory : Memory) :
    (∀ call ∈ (flattenAll objects (.start objects) memory).1, ∀ place ∈ call.2.words,
        (place + 1) * 4 ≤ totalSize objects) ↔
      objects.length ≤ 1 := by
  cases objects with
  | nil => exact ⟨fun _ => Nat.zero_le _, fun _ _ absent => absurd absent List.not_mem_nil⟩
  | cons object rest =>
      have room : object.getFlattenedSize ≤ (Cursor.start (object :: rest)).size :=
        Nat.le_add_right _ _
      have fdRoom : object.getFdCount ≤ (Cursor.start (object :: rest)).count :=
        Nat.le_add_right _ _
      by_cases alone : rest = []
      · rw [alone] at room fdRoom ⊢
        refine ⟨fun _ => Nat.le_refl 1, ?_⟩
        intro _ call made place written
        rw [List.mem_singleton.mp made] at written
        obtain ⟨_, inside⟩ := (flatten_words room fdRoom memory).mp written
        rw [totalSize_cons, GraphicBuffer.getFlattenedSize]
        rw [Cursor.start, GraphicBuffer.getFlattenedSize] at inside
        dsimp only at inside
        omega
      · have long : ¬ (object :: rest).length ≤ 1 := by
          rw [List.length_cons]
          have positive := List.length_pos_iff.mpr alone
          omega
        refine ⟨fun inside => ?_, fun short => absurd short long⟩
        obtain ⟨_, moved, _⟩ := flatten_fits room fdRoom memory
        obtain ⟨restSize, restCount⟩ := @flatten_leaves _ (.start (object :: rest)) _ _
          (Nat.le_refl _) (Nat.le_refl _) memory
        obtain ⟨call, made, place, written, reached⟩ := flattenAll_reaches alone restSize restCount
          (flatten object (.start (object :: rest)) memory).memory
        have within := inside call (List.mem_cons_of_mem _ made) place written
        have positive := getFlattenedSize_pos object
        rw [moved, Cursor.past] at reached
        rw [totalSize_cons] at within
        dsimp only [Cursor.start] at reached
        omega

/-- The first object always fits, so no nonempty list makes the round trip in step. -/
theorem roundTrip_iff (objects : List GraphicBuffer) (memory : Memory) :
    RoundTrip objects memory ↔ objects = [] := by
  constructor
  · intro roundTrip
    cases objects with
    | nil => rfl
    | cons object rest =>
        have size : object.getFlattenedSize ≤ (Cursor.start (object :: rest)).size :=
          Nat.le_add_right _ _
        have count : object.getFdCount ≤ (Cursor.start (object :: rest)).count :=
          Nat.le_add_right _ _
        have inStep := roundTrip.inStep _ List.mem_cons_self
        have outOfStep := flatten_outOfStep size count memory
        have positive := getFlattenedSize_pos object
        dsimp only at inStep outOfStep
        omega
  · rintro rfl
    constructor
    case flattened => exact fun _ absent => absurd absent List.not_mem_nil
    case inside => exact fun _ absent => absurd absent List.not_mem_nil
    case inStep => exact fun _ absent => absurd absent List.not_mem_nil
    case unflattened =>
      intro targets none
      rw [List.length_nil, List.length_eq_zero_iff] at none
      rw [none]
      exact ⟨.nil, rfl, rfl⟩

/-- A buffer with one descriptor and one int. -/
def smallBuffer : GraphicBuffer where
  width := 1#32
  height := 1#32
  stride := 1#32
  format := 1#32
  usage := 0#32
  handle := some ⟨[5#32], [7#32]⟩
  mOwner := .ownData
  mWrappedBuffer := none
  mId := 1#64

/-- It takes 44 bytes off the size and moves the pointer by 176. -/
theorem roundTrip_smallBuffer :
    WithinLimits smallBuffer ∧
      ¬ RoundTrip [smallBuffer] ⟨fun _ => 0#32, fun _ => 0#32⟩ := by
  constructor
  · constructor <;> decide
  · intro roundTrip
    have inStep := roundTrip.inStep _ List.mem_cons_self
    revert inStep
    decide

end T00F.Graphics
