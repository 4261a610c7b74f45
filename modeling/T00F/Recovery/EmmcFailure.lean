import T00F.Recovery.Emmc
import T00F.Systems.Lifecycle

/-!
# Failed updates of the boot partitions

What `write_umip_emmc` leaves behind when it fails, for any answers of the kernel.
`writeBoot_cases` lists the ways through one iteration of the loop,
`updateIfwiFileScuEmmc_atomic` says which partitions a run has updated and that it has
released what it acquired.
-/

namespace T00F.Recovery

open Systems

/-- What a run acquires: the token buffer, and a descriptor and a mapping for each
partition. -/
inductive Resource where
  | tokenData
  | bootFd (index : Fin 2)
  | mapping (index : Fin 2)
deriving DecidableEq, Fintype, Repr

/-- What a call does with a resource. A call that fails does nothing. -/
def Call.use : Call → Option (Use Resource)
  | .malloc succeeded => if succeeded then some (.acquire .tokenData) else none
  | .free => some (.release .tokenData)
  | .openBoot index fd => if fd < 0 then none else some (.acquire (.bootFd index))
  | .mmap index succeeded => if succeeded then some (.acquire (.mapping index)) else none
  | .store index => some (.touch (.mapping index))
  | .munmap index => some (.release (.mapping index))
  | .closeBoot index => some (.release (.bootFd index))
  | .openForceRo _ _ => none
  | .writeForceRo _ _ _ => none
  | .closeForceRo _ => none

namespace Device

/-- The log of the calls made so far. -/
def uses (device : Device) : List (Use Resource) := device.calls.filterMap Call.use

/-- A call adds the resources it uses. -/
@[simp] theorem uses_call (device : Device) (call : Call) :
    (device.call call).uses = device.uses ++ call.use.toList := by
  rw [uses, Device.call, List.filterMap_append, uses, List.filterMap_cons]
  cases call.use <;> rfl

@[simp] theorem uses_store (device : Device) (index : Fin 2) (partition : Partition) :
    (device.store index partition).uses = device.uses ++ [.touch (.mapping index)] := by
  rw [uses, Device.store, List.filterMap_append, uses]
  rfl

end Device

/-- Switching `force_ro` holds no resource when it returns. -/
@[simp] theorem setForceRo_uses (kernel : Kernel) (index : Fin 2) (readOnly : Bool)
    (device : Device) : (setForceRo kernel index readOnly device).2.uses = device.uses := by
  simp only [setForceRo]
  split
  · simp [Call.use]
  · split <;> simp [Call.use]

/-! ## One iteration -/

/-- The log of an iteration up to the close of the partition. -/
def writtenUses (index : Fin 2) : List (Use Resource) :=
  [.acquire (.bootFd index), .acquire (.mapping index), .touch (.mapping index),
    .release (.mapping index), .release (.bootFd index)]

/-- The ways through an iteration. -/
inductive WriteBootResult (index : Fin 2) (data : List Byte) (before : Device) :
    Except (Int × Device) (Locals × Device) → Prop where
  /-- The partition was not opened. -/
  | unopened {after : Device} (boot : after.boot = before.boot)
      (uses : after.uses = before.uses ++ [.release .tokenData]) :
      WriteBootResult index data before (.error (-1, after))
  /-- The partition was not mapped. -/
  | unmapped {after : Device} (boot : after.boot = before.boot)
      (uses : after.uses = before.uses ++
        [.acquire (.bootFd index), .release .tokenData, .release (.bootFd index)]) :
      WriteBootResult index data before (.error (-1, after))
  /-- The partition was updated, but is still writable. -/
  | writable {after : Device}
      (boot : after.boot = Function.update before.boot index
        (xorUpdate (mergeImage (before.boot index) data)))
      (uses : after.uses = before.uses ++ writtenUses index ++ [.release .tokenData]) :
      WriteBootResult index data before (.error (-1, after))
  /-- The partition was updated. -/
  | written {locals : Locals} {after : Device} (closed : locals.bootFd = -1)
      (readOnly : locals.bootPartitionWritable = false)
      (boot : after.boot = Function.update before.boot index
        (xorUpdate (mergeImage (before.boot index) data)))
      (uses : after.uses = before.uses ++ writtenUses index) :
      WriteBootResult index data before (.ok (locals, after))

/-- Failing with the partition closed releases the token buffer. -/
theorem errBoot1_closed (kernel : Kernel) (index : Fin 2) {locals : Locals}
    (closed : locals.bootFd < 0) (device : Device) :
    ∃ after, errBoot1 kernel ifwiOffset index locals device = (-1, after) ∧
      after.boot = device.boot ∧ after.uses = device.uses ++ [.release .tokenData] := by
  have shut : ¬ 0 ≤ locals.bootFd := Int.not_le.mpr closed
  refine ⟨_, rfl, ?_⟩
  simp only [if_true, if_neg shut]
  cases locals.bootPartitionWritable <;> simp [Call.use]

/-- Failing with the partition open closes it too. -/
theorem errBoot1_open (kernel : Kernel) (index : Fin 2) {locals : Locals}
    (opened : 0 ≤ locals.bootFd) (device : Device) :
    ∃ after, errBoot1 kernel ifwiOffset index locals device = (-1, after) ∧
      after.boot = device.boot ∧
      after.uses = device.uses ++ [.release .tokenData, .release (.bootFd index)] := by
  refine ⟨_, rfl, ?_⟩
  simp only [if_true, if_pos opened]
  cases locals.bootPartitionWritable <;> simp [Call.use]

/-- What an iteration can do that finds the previous one closed. -/
theorem writeBoot_cases (kernel : Kernel) (data : List Byte) {size : Nat}
    (fits : size ≤ bootIfwiSize) (index : Fin 2) {locals : Locals} (closed : locals.bootFd = -1)
    (device : Device) : WriteBootResult index (data.take size) device
      (writeBoot kernel ifwiOffset (some data) size index locals device) := by
  have inRange : (ifwiOffset + size) % 2 ^ 32 ≤ bootIfwiSize := by
    unfold ifwiOffset bootIfwiSize at *
    omega
  have shut : locals.bootFd < 0 := by omega
  unfold writeBoot
  dsimp only
  generalize switched : setForceRo kernel index false device = result
  obtain ⟨ret, device₁⟩ := result
  have boot₁ : device₁.boot = device.boot := by
    rw [← setForceRo_boot kernel index false device, switched]
  have uses₁ : device₁.uses = device.uses := by
    rw [← setForceRo_uses kernel index false device, switched]
  dsimp only
  by_cases forced : ret ≠ 0
  · rw [if_pos forced]
    obtain ⟨after, result, boot, uses⟩ := errBoot1_closed kernel index shut device₁
    rw [result]
    exact .unopened (boot.trans boot₁) (uses.trans (by rw [uses₁]))
  · rw [if_neg forced]
    generalize kernel.openBoot device₁.calls.length = fd
    by_cases opened : fd < 0
    · rw [if_pos opened]
      obtain ⟨after, result, boot, uses⟩ := @errBoot1_closed kernel index
        { locals with bootPartitionWritable := true, bootFd := fd } opened
        (device₁.call (.openBoot index fd))
      rw [result]
      refine .unopened (boot.trans boot₁) (uses.trans ?_)
      simp [Call.use, opened, uses₁]
    · rw [if_neg opened]
      generalize kernel.mmap (device₁.call (.openBoot index fd)).calls.length = mapped
      cases mapped with
      | false =>
          rw [if_pos rfl]
          obtain ⟨after, result, boot, uses⟩ := @errBoot1_open kernel index
            { locals with bootPartitionWritable := true, bootFd := fd } (Int.not_lt.mp opened)
            ((device₁.call (.openBoot index fd)).call (.mmap index false))
          rw [result]
          refine .unmapped (boot.trans boot₁) (uses.trans ?_)
          simp [Call.use, opened, uses₁]
      | true =>
          rw [if_neg (by decide), if_pos inRange]
          simp only [if_true, Device.call_boot, payload, memcpy_tokens_eq_mergeImage, boot₁]
          generalize merged : mergeImage (device.boot index) (data.take size) = partition
          generalize stored : (((((device₁.call (.openBoot index fd)).call (.mmap index true)).store
            index (xorUpdate partition)).call (.munmap index)).call (.closeBoot index)) = device₂
          have boot₂ : device₂.boot = Function.update device.boot index (xorUpdate partition) := by
            rw [← stored, ← boot₁]
            rfl
          have uses₂ : device₂.uses = device.uses ++ writtenUses index := by
            rw [← stored]
            simp [Call.use, opened, uses₁, writtenUses]
          by_cases restored : (setForceRo kernel index true device₂).1 ≠ 0
          · rw [if_pos restored]
            obtain ⟨after, result, boot, uses⟩ := @errBoot1_closed kernel index
              ⟨-1, true, (device.boot index).slice tokenUmipAreaOffset tokenUmipAreaSize⟩
              (show (-1 : Int) < 0 by decide) (setForceRo kernel index true device₂).2
            rw [setForceRo_boot, boot₂, ← merged] at boot
            rw [setForceRo_uses, uses₂] at uses
            rw [result]
            exact .writable boot uses
          · rw [if_neg restored]
            refine .written rfl rfl ?_ ?_
            · rw [setForceRo_boot, boot₂, merged]
            · rw [setForceRo_uses, uses₂]

/-! ## The whole run -/

/-- What an update has to do to a partition: the image is laid over it except for the
token area, and the checksums are those of the result. -/
structure Completed (before after : Partition) (image : Image) : Prop where
  tokens : ∀ offset, TokenByte offset → after.load8 offset = before.load8 offset
  data : ∀ offset < min image.size 0x400000, ¬ TokenByte offset → ¬ ChecksumByte offset →
    after.load8 offset = image.data.getD offset 0#8
  rest : ∀ offset < 0x400000, min image.size 0x400000 ≤ offset → ¬ ChecksumByte offset →
    after.load8 offset = before.load8 offset
  checksums : ChecksumsHold after

/-- The contents that a partition gets. -/
def updated (device : Device) (image : Image) (index : Fin 2) : Partition :=
  xorUpdate (mergeImage (device.boot index) (image.data.take bootIfwiSize))

/-- The merged and updated image completes the partition. -/
theorem completed_xorUpdate (before : Partition) (image : Image) :
    Completed before (xorUpdate (mergeImage before (image.data.take bootIfwiSize))) image where
  tokens offset token := by
    rw [xorUpdate_load8 _ (tokenByte_not_checksumByte token),
      mergeImage_take_load8 before image (Nat.lt_trans token.2 (by decide)), if_pos (Or.inl token)]
  data offset covered token checksum := by
    have outside : ¬ min image.size 0x400000 ≤ offset := Nat.not_le.mpr covered
    rw [xorUpdate_load8 _ checksum, mergeImage_take_load8 before image (by omega),
      if_neg (not_or.mpr ⟨token, outside⟩)]
  rest offset inside above checksum := by
    rw [xorUpdate_load8 _ checksum, mergeImage_take_load8 before image inside,
      if_pos (Or.inr above)]
  checksums := xorUpdate_checksumsHold _

/-- What a run has done with its resources: everything it acquired is released again,
exactly once and after its last use. -/
def Cleaned (log : List (Use Resource)) : Prop :=
  ∃ lives, replay (fun _ => .fresh) log = some lives ∧ ∀ resource, lives resource ≠ .live

instance (log : List (Use Resource)) : Decidable (Cleaned log) :=
  decidable_of_iff (∃ lives ∈ replay (fun _ => Life.fresh) log, ∀ resource, lives resource ≠ .live)
    Iff.rfl

/-- The partitions that a run has updated: none, the first one, or both in order. -/
inductive Progress (device : Device) (image : Image) (boot : Fin 2 → Partition) : Prop where
  | none (same : boot = device.boot)
  | first (same : boot = Function.update device.boot 0 (updated device image 0))
  | both (same : boot = updated device image)

/-- Updating one partition after the other updates both. -/
theorem update_updated (device : Device) (image : Image) :
    Function.update (Function.update device.boot 0 (updated device image 0)) 1
      (updated device image 1) = updated device image := by
  funext index
  match index with
  | 0 => rfl
  | 1 => rfl

/-- Every run releases what it acquires and updates the partitions in order. -/
theorem updateIfwiFileScuEmmc_cases (kernel : Kernel) (image : Image) (device : Device) :
    ∃ ret after log, updateIfwiFileScuEmmc kernel image device = (ret, after) ∧
      after.uses = device.uses ++ log ∧ Cleaned log ∧
      (ret = -1 ∧ Progress device image after.boot ∨
        ret = 0 ∧ after.boot = updated device image) := by
  simp only [updateIfwiFileScuEmmc, writeUmipEmmc, true_and, if_true]
  cases kernel.malloc device.calls.length with
  | false => exact ⟨-1, _, [], rfl, by simp [Call.use], by decide, Or.inl ⟨rfl, .none rfl⟩⟩
  | true =>
      rw [if_neg (by decide)]
      have fits : (if bootIfwiSize < image.size then bootIfwiSize else image.size) ≤
          bootIfwiSize := by
        split <;> omega
      have first := writeBoot_cases kernel image.data fits 0
        (rfl : (⟨-1, false, []⟩ : Locals).bootFd = -1) (device.call (.malloc true))
      rw [take_cutSize] at first
      generalize writeBoot kernel ifwiOffset (some image.data) _ 0 _ _ = result at first ⊢
      cases first with
      | unopened boot uses =>
          rw [Device.uses_call, List.append_assoc] at uses
          exact ⟨-1, _, _, rfl, uses, by decide, Or.inl ⟨rfl, .none boot⟩⟩
      | unmapped boot uses =>
          rw [Device.uses_call, List.append_assoc] at uses
          exact ⟨-1, _, _, rfl, uses, by decide, Or.inl ⟨rfl, .none boot⟩⟩
      | writable boot uses =>
          rw [Device.uses_call, List.append_assoc, List.append_assoc] at uses
          exact ⟨-1, _, _, rfl, uses, by decide, Or.inl ⟨rfl, .first boot⟩⟩
      | @written locals device₁ closed readOnly boot uses =>
          rw [Device.uses_call, List.append_assoc] at uses
          have second := writeBoot_cases kernel image.data fits 1 closed device₁
          have apart : device₁.boot 1 = device.boot 1 := by
            rw [boot]
            rfl
          have both : Function.update device₁.boot 1
              (xorUpdate (mergeImage (device₁.boot 1) (image.data.take bootIfwiSize))) =
                updated device image := by
            rw [apart, boot]
            exact update_updated device image
          rw [take_cutSize] at second
          dsimp only
          generalize writeBoot kernel ifwiOffset (some image.data) _ 1 _ _ = result at second ⊢
          cases second with
          | unopened boot₁ uses₁ =>
              rw [uses, List.append_assoc] at uses₁
              exact ⟨-1, _, _, rfl, uses₁, by decide, Or.inl ⟨rfl, .first (boot₁.trans boot)⟩⟩
          | unmapped boot₁ uses₁ =>
              rw [uses, List.append_assoc] at uses₁
              exact ⟨-1, _, _, rfl, uses₁, by decide, Or.inl ⟨rfl, .first (boot₁.trans boot)⟩⟩
          | writable boot₁ uses₁ =>
              rw [uses, List.append_assoc, List.append_assoc] at uses₁
              exact ⟨-1, _, _, rfl, uses₁, by decide, Or.inl ⟨rfl, .both (boot₁.trans both)⟩⟩
          | @written locals₁ device₂ _ _ boot₁ uses₁ =>
              rw [uses, List.append_assoc] at uses₁
              have freed : (device₂.call .free).uses = _ := Device.uses_call device₂ .free
              rw [uses₁, List.append_assoc] at freed
              exact ⟨0, _, _, rfl, freed, by decide, Or.inr ⟨rfl, boot₁.trans both⟩⟩

/-- Each partition is untouched or completed. -/
theorem Progress.partition {device : Device} {image : Image} {boot : Fin 2 → Partition}
    (progress : Progress device image boot) (index : Fin 2) :
    boot index = device.boot index ∨ Completed (device.boot index) (boot index) image := by
  cases progress with
  | none same => exact Or.inl (by rw [same])
  | first same =>
      match index with
      | 0 =>
          rw [same, Function.update_self]
          exact Or.inr (completed_xorUpdate _ _)
      | 1 => exact Or.inl (by rw [same, Function.update_of_ne (by decide)])
  | both same =>
      rw [same]
      exact Or.inr (completed_xorUpdate _ _)

/-- The second partition changes only once the first is completed. -/
theorem Progress.order {device : Device} {image : Image} {boot : Fin 2 → Partition}
    (progress : Progress device image boot) (changed : boot 1 ≠ device.boot 1) :
    Completed (device.boot 0) (boot 0) image := by
  cases progress with
  | none same => exact absurd (by rw [same]) changed
  | first same => exact absurd (by rw [same, Function.update_of_ne (by decide)]) changed
  | both same =>
      rw [same]
      exact completed_xorUpdate _ _

/-- Whatever calls fail, an update returns 0 with both partitions updated, or -1 with
each of them as it was or updated, the second one only after the first. Either way it has
released everything that it acquired exactly once. -/
theorem updateIfwiFileScuEmmc_atomic (kernel : Kernel) (image : Image) (device : Device) :
    ∃ ret after log, updateIfwiFileScuEmmc kernel image device = (ret, after) ∧
      (ret = 0 ∧ (∀ index, Completed (device.boot index) (after.boot index) image) ∨
        ret = -1 ∧
          (∀ index, after.boot index = device.boot index ∨
            Completed (device.boot index) (after.boot index) image) ∧
          (after.boot 1 ≠ device.boot 1 → Completed (device.boot 0) (after.boot 0) image)) ∧
      after.uses = device.uses ++ log ∧ Cleaned log ∧
      ∀ resource, log.count (.release resource) = log.count (.acquire resource) ∧
        log.count (.acquire resource) ≤ 1 := by
  obtain ⟨ret, after, log, run, uses, cleaned, outcome⟩ :=
    updateIfwiFileScuEmmc_cases kernel image device
  refine ⟨ret, after, log, run, ?_, uses, cleaned, ?_⟩
  · rcases outcome with ⟨failed, progress⟩ | ⟨succeeded, boot⟩
    · exact Or.inr ⟨failed, progress.partition, progress.order⟩
    · refine Or.inl ⟨succeeded, fun index => ?_⟩
      rw [boot]
      exact completed_xorUpdate _ _
  · intro resource
    obtain ⟨lives, replayed, ended⟩ := cleaned
    exact replay_released replayed (ended resource)

end T00F.Recovery
