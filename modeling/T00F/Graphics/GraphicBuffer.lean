import T00F.Systems.Runs
import T00F.Systems.Word

/-!
# Graphic buffers

`GraphicBuffer.cpp`: how a buffer object is flattened into words and descriptors and
unflattened from them. `Cursor` holds the four references that both functions move. A call
of `unflatten` records which words and descriptors it reads, counted from where its cursor
starts, and what happens to handles. `unflatten_headerless` to `unflatten_enough` are its
exits up to where the old handle is freed.
-/

namespace T00F.Graphics

open Systems

/-- `NO_ERROR` -/
def noError : Int := 0

/-- `NO_MEMORY` -/
def noMemory : Int := -12

/-- `BAD_VALUE` -/
def badValue : Int := -22

/-- `BAD_TYPE` -/
def badType : Int := -2147483647

/-- `'GBFR'` -/
def gbfr : Word := 0x47424652#32

/-- `maxNumber` -/
def maxNumber : Nat := 4096

/-- `native_handle_t`: its descriptors and ints. -/
structure NativeHandle where
  fds : List Word
  ints : List Word
deriving DecidableEq, Repr

/-- `mOwner` -/
inductive Owner where
  | ownNone
  | ownHandle
  | ownData
deriving DecidableEq, Repr

/-- `GraphicBuffer`. The wrapped buffer, if any, is known by a number. -/
structure GraphicBuffer where
  width : Word
  height : Word
  stride : Word
  format : Word
  usage : Word
  handle : Option NativeHandle
  mOwner : Owner
  mWrappedBuffer : Option Nat
  mId : BitVec 64
deriving DecidableEq, Repr

/-- The references that `flatten` and `unflatten` move: `buffer` in words and `fds` from
the start of the memory, `size` in bytes. -/
structure Cursor where
  buffer : Nat
  size : Nat
  fds : Nat
  count : Nat
deriving DecidableEq, Repr

/-- The memory behind the cursors. -/
structure Memory where
  words : Nat → Word
  fds : Nat → Word

namespace GraphicBuffer

def numFds (object : GraphicBuffer) : Nat :=
  (object.handle.map fun handle => handle.fds.length).getD 0

def numInts (object : GraphicBuffer) : Nat :=
  (object.handle.map fun handle => handle.ints.length).getD 0

/-- `getFlattenedSize` -/
def getFlattenedSize (object : GraphicBuffer) : Nat := (10 + object.numInts) * 4

/-- `getFdCount` -/
def getFdCount (object : GraphicBuffer) : Nat := object.numFds

/-- The words from `buf[0]` on that `flatten` writes. Without a handle `buf[8]` and
`buf[9]` are zero. -/
def flatWords (object : GraphicBuffer) : List Word :=
  [gbfr, object.width, object.height, object.stride, object.format, object.usage,
    (object.mId >>> 32).setWidth 32, (object.mId &&& 0xFFFFFFFF#64).setWidth 32,
    BitVec.ofNat 32 object.numFds, BitVec.ofNat 32 object.numInts] ++
    (object.handle.map fun handle => handle.ints).getD []

def flatFds (object : GraphicBuffer) : List Word :=
  (object.handle.map fun handle => handle.fds).getD []

/-- The dimensions are zero and there is no handle. -/
def emptied (object : GraphicBuffer) : GraphicBuffer :=
  { object with
    width := 0#32
    height := 0#32
    stride := 0#32
    format := 0#32
    usage := 0#32
    handle := none }

end GraphicBuffer

/-! ## Flattening -/

/-- What a call of `flatten` leaves, and the places that it has written. -/
structure Flattening where
  status : Int
  cursor : Cursor
  memory : Memory
  words : List Nat
  fds : List Nat

/-- `flatten`. The pointer to ints is moved by `sizeNeeded` ints. -/
def flatten (object : GraphicBuffer) (cursor : Cursor) (memory : Memory) : Flattening :=
  let sizeNeeded := object.getFlattenedSize
  if cursor.size < sizeNeeded then ⟨noMemory, cursor, memory, [], []⟩
  else
    let fdCountNeeded := object.getFdCount
    if cursor.count < fdCountNeeded then ⟨noMemory, cursor, memory, [], []⟩
    else
      { status := noError
        cursor :=
          { buffer := cursor.buffer + sizeNeeded
            size := cursor.size - sizeNeeded
            fds := cursor.fds + object.numFds
            count := cursor.count - object.numFds }
        memory :=
          { words := storeRun memory.words cursor.buffer object.flatWords
            fds := storeRun memory.fds cursor.fds object.flatFds }
        words := (List.range object.flatWords.length).map (cursor.buffer + ·)
        fds := (List.range object.flatFds.length).map (cursor.fds + ·) }

/-! ## Unflattening -/

/-- The handle that the object has before the call, or the one that the call creates. -/
inductive HandleRef where
  | previous
  | created
deriving DecidableEq, Repr

/-- What happens to handles. -/
inductive HandleEvent where
  | create (handle : HandleRef)
  | register (handle : HandleRef)
  | unregister (handle : HandleRef)
  | close (handle : HandleRef)
  | delete (handle : HandleRef)
  | free (handle : HandleRef)
deriving DecidableEq, Repr

/-- How `free_handle` gives a handle back. -/
def Owner.release : Owner → List HandleEvent
  | .ownNone => []
  | .ownHandle => [.unregister .previous, .close .previous, .delete .previous]
  | .ownData => [.free .previous]

/-- The outcomes of the calls in `unflatten`: whether `native_handle_create` returns a
handle, and what `registerBuffer` returns. -/
structure UnflattenIo where
  nativeHandleCreate : Bool
  registerBuffer : Int
deriving DecidableEq, Repr

/-- What a call of `unflatten` leaves, and what it has read and done on the way. -/
structure Unflattening where
  status : Int
  object : GraphicBuffer
  cursor : Cursor
  words : List Nat
  fds : List Nat
  events : List HandleEvent
deriving DecidableEq, Repr

/-- `mId` from `buf[6]` and `buf[7]`. -/
def idOf (high low : Word) : BitVec 64 := high.signExtend 64 <<< 32 ||| low.setWidth 64

/-- `unflatten` from where the header has been checked. -/
def unflattenHandle (io : UnflattenIo) (memory : Memory) (object : GraphicBuffer) (cursor : Cursor)
    (numFds numInts : Nat) : Unflattening :=
  let buf index := memory.words (cursor.buffer + index)
  let sizeNeeded := (10 + numInts) * 4
  let freed := if object.handle.isSome then object.mOwner.release else []
  let object := if object.handle.isSome then { object with mWrappedBuffer := none } else object
  let moved : Cursor :=
    { buffer := cursor.buffer + sizeNeeded
      size := cursor.size - sizeNeeded
      fds := cursor.fds + numFds
      count := cursor.count - numFds }
  if numFds ≠ 0 ∨ numInts ≠ 0 then
    if !io.nativeHandleCreate then
      ⟨noMemory, object.emptied, cursor, [0, 8, 9, 1, 2, 3, 4, 5], [], freed⟩
    else
      let words := [0, 8, 9, 1, 2, 3, 4, 5] ++ (List.range numInts).map (10 + ·) ++ [6, 7]
      let fds := List.range numFds
      let events := freed ++ [.create .created, .register .created]
      let object :=
        { object with
          width := buf 1
          height := buf 2
          stride := buf 3
          format := buf 4
          usage := buf 5
          handle := some ⟨loadRun memory.fds cursor.fds numFds,
            loadRun memory.words (cursor.buffer + 10) numInts⟩
          mId := idOf (buf 6) (buf 7)
          mOwner := .ownHandle }
      if io.registerBuffer ≠ noError then
        ⟨io.registerBuffer, object.emptied, cursor, words, fds, events⟩
      else ⟨noError, object, moved, words, fds, events⟩
  else
    let object :=
      { object.emptied with
        mId := idOf (buf 6) (buf 7)
        mOwner := .ownHandle }
    ⟨noError, object, moved, [0, 8, 9, 6, 7], [], freed⟩

/-- `unflatten`. The numbers of descriptors and ints are read as unsigned. -/
def unflatten (io : UnflattenIo) (memory : Memory) (object : GraphicBuffer) (cursor : Cursor) :
    Unflattening :=
  let buf index := memory.words (cursor.buffer + index)
  if cursor.size < 8 * 4 then ⟨noMemory, object, cursor, [], [], []⟩
  else if buf 0 ≠ gbfr then ⟨badType, object, cursor, [0], [], []⟩
  else
    let numFds := (buf 8).toNat
    let numInts := (buf 9).toNat
    if numFds ≥ maxNumber ∨ numInts ≥ maxNumber - 10 then
      ⟨badValue, object.emptied, cursor, [0, 8, 9], [], []⟩
    else
      let sizeNeeded := (10 + numInts) * 4
      if cursor.size < sizeNeeded then ⟨noMemory, object, cursor, [0, 8, 9], [], []⟩
      else
        let fdCountNeeded := numFds
        if cursor.count < fdCountNeeded then ⟨noMemory, object, cursor, [0, 8, 9], [], []⟩
        else unflattenHandle io memory object cursor numFds numInts

/-! ## The header -/

/-- `buf` -/
def buf (memory : Memory) (cursor : Cursor) (index : Nat) : Word :=
  memory.words (cursor.buffer + index)

/-- `numFds` in the header. -/
def headerFds (memory : Memory) (cursor : Cursor) : Nat := (buf memory cursor 8).toNat

/-- `numInts` in the header. -/
def headerInts (memory : Memory) (cursor : Cursor) : Nat := (buf memory cursor 9).toNat

/-- The call gets behind the test of the first word. -/
structure HasHeader (memory : Memory) (cursor : Cursor) : Prop where
  size : 8 * 4 ≤ cursor.size
  magic : buf memory cursor 0 = gbfr

/-- The header has more descriptors or ints than `unflatten` accepts. -/
def TooLarge (memory : Memory) (cursor : Cursor) : Prop :=
  headerFds memory cursor ≥ maxNumber ∨ headerInts memory cursor ≥ maxNumber - 10

instance (memory : Memory) (cursor : Cursor) : Decidable (TooLarge memory cursor) :=
  inferInstanceAs (Decidable (_ ∨ _))

/-- There are as many words and descriptors as the header says. -/
structure Enough (memory : Memory) (cursor : Cursor) : Prop where
  size : (10 + headerInts memory cursor) * 4 ≤ cursor.size
  count : headerFds memory cursor ≤ cursor.count

/-! ## The exits -/

section Exits

variable {io : UnflattenIo} {memory : Memory} {object : GraphicBuffer} {cursor : Cursor}

/-- Without a header the call fails after at most one word. -/
theorem unflatten_headerless (headerless : ¬ HasHeader memory cursor) :
    ∃ status words, unflatten io memory object cursor = ⟨status, object, cursor, words, [], []⟩ ∧
      ∀ index ∈ words, (index + 1) * 4 ≤ cursor.size := by
  unfold unflatten
  by_cases short : cursor.size < 8 * 4
  · rw [if_pos short]
    exact ⟨noMemory, [], rfl, fun _ absent => absurd absent List.not_mem_nil⟩
  · have size := Nat.not_lt.mp short
    have other : memory.words (cursor.buffer + 0) ≠ gbfr :=
      fun magic => headerless ⟨size, magic⟩
    rw [if_neg short]
    dsimp only
    rw [if_pos other]
    refine ⟨badType, [0], rfl, ?_⟩
    intro index first
    rw [List.mem_singleton.mp first]
    omega

variable (header : HasHeader memory cursor)

include header

/-- `unflatten` reads three words of the header and then refuses or goes on to the handle. -/
theorem unflatten_header : unflatten io memory object cursor =
    if TooLarge memory cursor then ⟨badValue, object.emptied, cursor, [0, 8, 9], [], []⟩
    else if cursor.size < (10 + headerInts memory cursor) * 4 then
      ⟨noMemory, object, cursor, [0, 8, 9], [], []⟩
    else if cursor.count < headerFds memory cursor then
      ⟨noMemory, object, cursor, [0, 8, 9], [], []⟩
    else unflattenHandle io memory object cursor (headerFds memory cursor)
      (headerInts memory cursor) := by
  unfold unflatten
  rw [if_neg (Nat.not_lt.mpr header.size)]
  exact if_neg (not_not.mpr header.magic)

/-- Counts above the limits empty the object and consume nothing. -/
theorem unflatten_tooLarge (large : TooLarge memory cursor) :
    unflatten io memory object cursor = ⟨badValue, object.emptied, cursor, [0, 8, 9], [], []⟩ := by
  rw [unflatten_header header, if_pos large]

/-- Fewer bytes or descriptors than the header announces are refused without a change. -/
theorem unflatten_tooLittle (few : ¬ TooLarge memory cursor) (little : ¬ Enough memory cursor) :
    unflatten io memory object cursor = ⟨noMemory, object, cursor, [0, 8, 9], [], []⟩ := by
  rw [unflatten_header header, if_neg few]
  by_cases size : (10 + headerInts memory cursor) * 4 ≤ cursor.size
  · have missing : cursor.count < headerFds memory cursor :=
      Nat.not_le.mp fun count => little ⟨size, count⟩
    rw [if_neg (Nat.not_lt.mpr size), if_pos missing]
  · rw [if_pos (Nat.not_le.mp size)]

/-- With enough bytes and descriptors the outcome is that of reading the handle. -/
theorem unflatten_enough (few : ¬ TooLarge memory cursor) (enough : Enough memory cursor) :
    unflatten io memory object cursor =
      unflattenHandle io memory object cursor (headerFds memory cursor)
        (headerInts memory cursor) := by
  rw [unflatten_header header, if_neg few, if_neg (Nat.not_lt.mpr enough.size),
    if_neg (Nat.not_lt.mpr enough.count)]

end Exits

end T00F.Graphics
