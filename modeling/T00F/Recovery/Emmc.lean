import T00F.Recovery.Checksum

/-!
# Writing the IFWI to both boot partitions

`write_umip_emmc` of `recovery_updater.cpp`, with the `goto` labels of its
failure paths as functions. The kernel is an oracle: the answer to a call may
depend on everything called before it. `mergeImage` states what one partition
should hold, and `writeBoot_succeeds` says that the loop body produces it.
-/

namespace T00F.Recovery

open Systems

/-- `IFWI_OFFSET` -/
def ifwiOffset : Nat := 0

/-- `TOKEN_UMIP_AREA_OFFSET` -/
def tokenUmipAreaOffset : Nat := 0x4000

/-- `TOKEN_UMIP_AREA_SIZE` -/
def tokenUmipAreaSize : Nat := 0x2C00

/-- The calls of a run that can fail or that release something, with their
results. `store` marks the moment a mapped partition has been rewritten. -/
inductive Call where
  | malloc (succeeded : Bool)
  | free
  | openForceRo (index : Fin 2) (fd : Int)
  | writeForceRo (index : Fin 2) (readOnly : Bool) (ret : Int)
  | closeForceRo (index : Fin 2)
  | openBoot (index : Fin 2) (fd : Int)
  | mmap (index : Fin 2) (succeeded : Bool)
  | store (index : Fin 2)
  | munmap (index : Fin 2)
  | closeBoot (index : Fin 2)
deriving DecidableEq, Repr

/-- What the system answers to a call made after `n` others. -/
structure Kernel where
  malloc : Nat → Bool
  openForceRo : Nat → Int
  writeForceRo : Nat → Int
  openBoot : Nat → Int
  mmap : Nat → Bool

/-- The two boot partitions and the calls made so far, oldest first. -/
structure Device where
  boot : Fin 2 → Partition
  calls : List Call

namespace Device

/-- Record a call. -/
def call (device : Device) (call : Call) : Device :=
  { device with calls := device.calls ++ [call] }

/-- Rewrite a mapped partition. -/
def store (device : Device) (index : Fin 2) (partition : Partition) : Device :=
  { boot := Function.update device.boot index partition, calls := device.calls ++ [.store index] }

@[simp] theorem call_boot (device : Device) (call : Call) :
    (device.call call).boot = device.boot := rfl

@[simp] theorem store_boot (device : Device) (index : Fin 2) (partition : Partition) :
    (device.store index partition).boot = Function.update device.boot index partition := rfl

end Device

/-- A `void *data, size_t size` argument pair: exactly `size` bytes are readable
at `data`, and `size_t` has 32 bits on the target. -/
structure Image where
  data : List Byte
  size : Nat
  readable : data.length = size
  size_lt : size < 2 ^ 32

/-- `set_force_ro`: a write that returns 0 makes the function return 0 too. -/
def setForceRo (kernel : Kernel) (index : Fin 2) (readOnly : Bool) (device : Device) :
    Int × Device :=
  let fd := kernel.openForceRo device.calls.length
  let device := device.call (.openForceRo index fd)
  if fd < 0 then (fd, device)
  else
    let ret := kernel.writeForceRo device.calls.length
    let device := device.call (.writeForceRo index readOnly ret)
    let device := device.call (.closeForceRo index)
    if ret ≤ 0 then (ret, device) else (0, device)

/-- The locals of `write_umip_emmc` that outlive an iteration or reach a label. -/
structure Locals where
  bootFd : Int
  bootPartitionWritable : Bool
  tokenData : List Byte

/-- The code from label `err_boot1` on. -/
def errBoot1 (kernel : Kernel) (addrOffset : Nat) (index : Fin 2) (locals : Locals)
    (device : Device) : Int × Device :=
  let device := if addrOffset = ifwiOffset then device.call .free else device
  let device := if 0 ≤ locals.bootFd then device.call (.closeBoot index) else device
  let device :=
    if locals.bootPartitionWritable then (setForceRo kernel index true device).2 else device
  (-1, device)

/-- The code from label `err_boot2` on. -/
def errBoot2 (kernel : Kernel) (addrOffset : Nat) (index : Fin 2) (locals : Locals)
    (device : Device) : Int × Device :=
  errBoot1 kernel addrOffset index locals (device.call (.munmap index))

/-- The bytes that `memset` or `memcpy` writes. -/
def payload (data : Option (List Byte)) (size : Nat) : List Byte :=
  match data with
  | none => List.replicate size 0#8
  | some bytes => bytes.take size

/-- One iteration of the loop over the partitions. `error` is the result of a
`goto`, `ok` carries the locals into the next iteration. -/
def writeBoot (kernel : Kernel) (addrOffset : Nat) (data : Option (List Byte)) (size : Nat)
    (index : Fin 2) (locals : Locals) (device : Device) :
    Except (Int × Device) (Locals × Device) :=
  let (ret, device) := setForceRo kernel index false device
  if ret ≠ 0 then .error (errBoot1 kernel addrOffset index locals device)
  else
    let locals := { locals with bootPartitionWritable := true }
    let fd := kernel.openBoot device.calls.length
    let device := device.call (.openBoot index fd)
    let locals := { locals with bootFd := fd }
    if fd < 0 then .error (errBoot1 kernel addrOffset index locals device)
    else
      let mapped := kernel.mmap device.calls.length
      let device := device.call (.mmap index mapped)
      if mapped = false then .error (errBoot1 kernel addrOffset index locals device)
      else
        let ptr := device.boot index
        let locals :=
          if addrOffset = ifwiOffset then
            { locals with tokenData := ptr.slice tokenUmipAreaOffset tokenUmipAreaSize }
          else locals
        -- The sum is computed in 32 bits.
        if (addrOffset + size) % 2 ^ 32 ≤ bootIfwiSize then
          let ptr := ptr.memcpy addrOffset (payload data size)
          let ptr :=
            if addrOffset = ifwiOffset then ptr.memcpy tokenUmipAreaOffset locals.tokenData
            else ptr
          let device := device.store index (xorUpdate ptr)
          let device := device.call (.munmap index)
          let device := device.call (.closeBoot index)
          let locals := { locals with bootFd := -1 }
          let (ret, device) := setForceRo kernel index true device
          if ret ≠ 0 then .error (errBoot1 kernel addrOffset index locals device)
          else .ok ({ locals with bootPartitionWritable := false }, device)
        else .error (errBoot2 kernel addrOffset index locals device)

/-- `write_umip_emmc` -/
def writeUmipEmmc (kernel : Kernel) (addrOffset : Nat) (data : Option (List Byte)) (size : Nat)
    (device : Device) : Int × Device :=
  let locals : Locals := { bootFd := -1, bootPartitionWritable := false, tokenData := [] }
  let allocated := kernel.malloc device.calls.length
  let device :=
    if addrOffset = ifwiOffset then device.call (.malloc allocated) else device
  if addrOffset = ifwiOffset ∧ allocated = false then (-1, device)
  else
    let size := if addrOffset = ifwiOffset ∧ bootIfwiSize < size then bootIfwiSize else size
    match writeBoot kernel addrOffset data size 0 locals device with
    | .error result => result
    | .ok (locals, device) =>
        match writeBoot kernel addrOffset data size 1 locals device with
        | .error result => result
        | .ok (_, device) =>
            (0, if addrOffset = ifwiOffset then device.call .free else device)

/-- `update_ifwi_file_scu_emmc` -/
def updateIfwiFileScuEmmc (kernel : Kernel) (image : Image) (device : Device) : Int × Device :=
  writeUmipEmmc kernel ifwiOffset (some image.data) image.size device

/-! ## What one partition should hold -/

/-- The token area belongs to the device, not to the image. -/
def TokenByte (offset : Nat) : Prop := 0x4000 ≤ offset ∧ offset < 0x6C00

instance (offset : Nat) : Decidable (TokenByte offset) := by
  unfold TokenByte
  infer_instance

/-- An image laid over old contents, except for the token area. -/
def mergeImage (old : Partition) (data : List Byte) : Partition :=
  Mapping.ofFn fun offset =>
    if ¬ TokenByte offset ∧ offset < data.length then data.getD offset 0#8 else old.load8 offset

/-- A merged byte is the image's outside of the tokens, and else the partition's. -/
theorem mergeImage_load8 (old : Partition) (data : List Byte) {offset : Nat}
    (inside : offset < bootIfwiSize) :
    (mergeImage old data).load8 offset =
      if ¬ TokenByte offset ∧ offset < data.length then data.getD offset 0#8
      else old.load8 offset :=
  Mapping.load8_ofFn _ inside

/-- Copying the image and putting the saved tokens back is a merge. -/
theorem memcpy_tokens_eq_mergeImage (old : Partition) (data : List Byte) :
    (old.memcpy ifwiOffset data).memcpy tokenUmipAreaOffset
      (old.slice tokenUmipAreaOffset tokenUmipAreaSize) = mergeImage old data := by
  apply Mapping.ext_load8
  intro offset inside
  rw [mergeImage_load8 _ _ inside, Mapping.load8_memcpy _ _ _ inside,
    Mapping.load8_memcpy _ _ _ inside, Mapping.length_slice]
  have area : tokenUmipAreaOffset ≤ offset ∧ offset < tokenUmipAreaOffset + tokenUmipAreaSize ↔
      TokenByte offset := Iff.rfl
  by_cases token : TokenByte offset
  · rw [if_pos (area.mpr token), if_neg (fun image => image.1 token),
      Mapping.getD_slice _ _ (by have := area.mpr token; omega), Nat.add_sub_of_le (area.mpr token).1]
  · have copied : ifwiOffset ≤ offset ∧ offset < ifwiOffset + data.length ↔
        ¬ TokenByte offset ∧ offset < data.length := by
      simp [ifwiOffset, token]
    rw [if_neg (mt area.mp token)]
    by_cases covered : ¬ TokenByte offset ∧ offset < data.length
    · rw [if_pos (copied.mpr covered), if_pos covered, ifwiOffset, Nat.sub_zero]
    · rw [if_neg (mt copied.mp covered), if_neg covered]

/-- The merge with an image that is cut to the size of a partition. -/
theorem mergeImage_take_load8 (before : Partition) (image : Image) {offset : Nat}
    (inside : offset < 0x400000) :
    (mergeImage before (image.data.take bootIfwiSize)).load8 offset =
      if TokenByte offset ∨ min image.size 0x400000 ≤ offset then before.load8 offset
      else image.data.getD offset 0#8 := by
  have cut : (image.data.take bootIfwiSize).length = min image.size 0x400000 := by
    rw [List.length_take, image.readable, Nat.min_comm, bootIfwiSize]
  have wide : offset < bootIfwiSize := inside
  rw [mergeImage_load8 _ _ wide, cut]
  by_cases kept : TokenByte offset ∨ min image.size 0x400000 ≤ offset
  · rw [if_pos kept, if_neg (by grind)]
  · rw [if_neg kept, if_pos (by grind)]
    simp [wide]

/-- The size that is written, and with it the image that is merged. -/
theorem take_cutSize (image : Image) :
    image.data.take (if bootIfwiSize < image.size then bootIfwiSize else image.size) =
      image.data.take bootIfwiSize := by
  split
  · rfl
  · rw [List.take_of_length_le (by rw [image.readable]),
      List.take_of_length_le (by rw [image.readable]; omega)]

/-! ## A run without failures -/

namespace Kernel

/-- Every `open`, `mmap` and `force_ro` write succeeds. -/
structure IoSucceeds (kernel : Kernel) : Prop where
  openForceRo : ∀ n, 0 ≤ kernel.openForceRo n
  writeForceRo : ∀ n, 0 < kernel.writeForceRo n
  openBoot : ∀ n, 0 ≤ kernel.openBoot n
  mmap : ∀ n, kernel.mmap n = true

/-- So does the allocation of the token buffer. -/
structure Succeeds (kernel : Kernel) : Prop extends IoSucceeds kernel where
  malloc : ∀ n, kernel.malloc n = true

end Kernel

/-- Switching `force_ro` touches no partition, whatever the calls answer. -/
@[simp] theorem setForceRo_boot (kernel : Kernel) (index : Fin 2) (readOnly : Bool)
    (device : Device) : (setForceRo kernel index readOnly device).2.boot = device.boot := by
  simp only [setForceRo]
  split
  · rfl
  · split <;> rfl

/-- When the kernel takes every call, `set_force_ro` returns 0. -/
theorem setForceRo_succeeds {kernel : Kernel} (succeeds : kernel.IoSucceeds) (index : Fin 2)
    (readOnly : Bool) (device : Device) : (setForceRo kernel index readOnly device).1 = 0 := by
  have opened := succeeds.openForceRo device.calls.length
  simp only [setForceRo]
  rw [if_neg (by omega)]
  have written := fun n => succeeds.writeForceRo n
  rw [if_neg (by have := written; grind)]

/-- Without failures one iteration merges the image into its own partition,
recomputes the checksums, and leaves the other partition alone. -/
theorem writeBoot_succeeds {kernel : Kernel} (succeeds : kernel.IoSucceeds) (data : List Byte)
    {size : Nat} (fits : size ≤ bootIfwiSize) (index : Fin 2) (locals : Locals) (device : Device) :
    ∃ locals' device', writeBoot kernel ifwiOffset (some data) size index locals device =
        .ok (locals', device') ∧
      device'.boot = Function.update device.boot index
        (xorUpdate (mergeImage (device.boot index) (data.take size))) := by
  have inRange : (ifwiOffset + size) % 4294967296 ≤ bootIfwiSize := by
    unfold ifwiOffset bootIfwiSize at *
    omega
  have opened := fun n => Int.not_lt.mpr (succeeds.openBoot n)
  unfold writeBoot
  simp [setForceRo_succeeds succeeds, opened, succeeds.mmap, inRange, payload,
    memcpy_tokens_eq_mergeImage]

/-- Without failures the update returns 0 and each partition holds the merge of
its own old contents with the image, cut to the size of a partition. -/
theorem updateIfwiFileScuEmmc_succeeds {kernel : Kernel} (succeeds : kernel.Succeeds)
    (image : Image) (device : Device) :
    (updateIfwiFileScuEmmc kernel image device).1 = 0 ∧
    ∀ index, (updateIfwiFileScuEmmc kernel image device).2.boot index =
      xorUpdate (mergeImage (device.boot index) (image.data.take bootIfwiSize)) := by
  have fits : (if bootIfwiSize < image.size then bootIfwiSize else image.size) ≤ bootIfwiSize := by
    split <;> omega
  obtain ⟨locals₀, device₀, first, boot₀⟩ := writeBoot_succeeds succeeds.toIoSucceeds image.data
    fits 0 ⟨-1, false, []⟩ (device.call (.malloc (kernel.malloc device.calls.length)))
  obtain ⟨locals₁, device₁, second, boot₁⟩ := writeBoot_succeeds succeeds.toIoSucceeds image.data
    fits 1 locals₀ device₀
  have run : updateIfwiFileScuEmmc kernel image device = (0, device₁.call .free) := by
    simp only [updateIfwiFileScuEmmc, writeUmipEmmc, succeeds.malloc, true_and, if_true,
      Bool.true_eq_false, if_false] at first ⊢
    rw [first]
    dsimp only
    rw [second]
  rw [run]
  refine ⟨rfl, fun index => ?_⟩
  rw [Device.call_boot, boot₁, boot₀, take_cutSize, Device.call_boot]
  match index with
  | 0 => simp
  | 1 => simp

/-- No token byte is a checksum byte. -/
theorem tokenByte_not_checksumByte {offset : Nat} (token : TokenByte offset) :
    ¬ ChecksumByte offset := by
  unfold TokenByte at token
  unfold ChecksumByte
  omega

/-- When the allocation of the token buffer and every `open`, `mmap` and
`force_ro` call succeed, the update returns 0 and leaves each partition with its
own token area, the image below `min size 0x400000`, its old bytes above, and the
checksums of that merge. -/
theorem updateIfwiFileScuEmmc_merges {kernel : Kernel} (succeeds : kernel.Succeeds)
    (image : Image) (device : Device) :
    (updateIfwiFileScuEmmc kernel image device).1 = 0 ∧
    ∀ index,
      let before := device.boot index
      let after := (updateIfwiFileScuEmmc kernel image device).2.boot index
      (∀ offset, 0x4000 ≤ offset → offset < 0x6C00 →
        after.load8 offset = before.load8 offset) ∧
      (∀ offset < min image.size 0x400000, ¬ TokenByte offset → ¬ ChecksumByte offset →
        after.load8 offset = image.data.getD offset 0#8) ∧
      (∀ offset < 0x400000, min image.size 0x400000 ≤ offset → ¬ ChecksumByte offset →
        after.load8 offset = before.load8 offset) ∧
      ∃ merged : Partition,
        (∀ offset < 0x400000, merged.load8 offset =
          if TokenByte offset ∨ min image.size 0x400000 ≤ offset then before.load8 offset
          else image.data.getD offset 0#8) ∧
        after = xorUpdate merged := by
  obtain ⟨returned, boots⟩ := updateIfwiFileScuEmmc_succeeds succeeds image device
  refine ⟨returned, fun index => ?_⟩
  intro before after
  have merged : ∀ offset < 0x400000,
      (mergeImage before (image.data.take bootIfwiSize)).load8 offset =
        if TokenByte offset ∨ min image.size 0x400000 ≤ offset then before.load8 offset
        else image.data.getD offset 0#8 := fun _ inside => mergeImage_take_load8 before image inside
  have plain : ∀ offset, ¬ ChecksumByte offset → after.load8 offset =
      (mergeImage before (image.data.take bootIfwiSize)).load8 offset := by
    intro offset data
    rw [show after = _ from boots index, xorUpdate_load8 _ data]
  refine ⟨fun offset low high => ?_, fun offset covered outside data => ?_,
    fun offset inside above data => ?_, _, merged, boots index⟩
  · have token : TokenByte offset := ⟨low, high⟩
    rw [plain offset (tokenByte_not_checksumByte token), merged offset (by omega),
      if_pos (Or.inl token)]
  · rw [plain offset data, merged offset (by omega), if_neg (not_or.mpr ⟨outside, by omega⟩)]
  · rw [plain offset data, merged offset inside, if_pos (Or.inr above)]

/-- A kernel on which every call succeeds. -/
def Kernel.reliable : Kernel where
  malloc _ := true
  openForceRo _ := 3
  writeForceRo _ := 1
  openBoot _ := 3
  mmap _ := true

/-- The reliable kernel succeeds in every call. -/
theorem Kernel.reliable_succeeds : Kernel.reliable.Succeeds where
  openForceRo _ := by simp [reliable]
  writeForceRo _ := by simp [reliable]
  openBoot _ := by simp [reliable]
  mmap _ := rfl
  malloc _ := rfl

/-- Two partitions of zeros. -/
def Device.blank : Device := ⟨fun _ => Mapping.ofFn fun _ => 0#8, []⟩

/-- An image of one byte, no checksum byte. -/
def Image.oneByte : Image := ⟨[0xAA#8], 1, rfl, by decide⟩

theorem updateIfwiFileScuEmmc_merges_oneByte :
    ((updateIfwiFileScuEmmc .reliable .oneByte .blank).2.boot 1).load8 0 = 0xAA#8 :=
  ((updateIfwiFileScuEmmc_merges Kernel.reliable_succeeds .oneByte .blank).2 1).2.1 0
    (by decide) (by decide) (by decide)

/-- Without memory for the token buffer the update returns -1, although no
`open`, `mmap` or `force_ro` call fails. -/
theorem updateIfwiFileScuEmmc_outOfMemory :
    ¬ ∀ (kernel : Kernel) (image : Image) (device : Device), kernel.IoSucceeds →
      (updateIfwiFileScuEmmc kernel image device).1 = 0 := by
  intro always
  have result := always { Kernel.reliable with malloc := fun _ => false } .oneByte .blank
    { Kernel.reliable_succeeds.toIoSucceeds with }
  revert result
  simp [updateIfwiFileScuEmmc, writeUmipEmmc]

end T00F.Recovery
