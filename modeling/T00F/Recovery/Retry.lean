import T00F.Recovery.EmmcFailure
import T00F.Recovery.Flash
import T00F.Systems.Frame

/-!
# Flashing again

What is left of flashes that failed or were made with other images, once one of them
succeeds. The checksums are a function of the other bytes (`ChecksumsHold.unique`), so an
image that covers what was flashed before leaves nothing of it: `retried_boot` says that the
partitions are then those of a single flash. `damage_located` says what the checksums of a
flashed partition are good for.
-/

namespace T00F.Recovery

open Systems

/-! ## The checksums are a function of the other bytes -/

theorem sectorXor_congr {left right : Partition}
    (same : SameOutside {offset | ChecksumByte offset} left right) {sector : Nat} (low : 2 ≤ sector)
    (high : sector < 128) : sectorXor left sector = sectorXor right sector := by
  refine xorRange_congr fun index bound => same.load32 ?_ fun offset above below => ?_
  · unfold bootIfwiSize
    omega
  · rw [Set.mem_ofPred_eq, ChecksumByte]
    omega

/-- Partitions whose checksums hold are equal if they agree everywhere else. -/
theorem ChecksumsHold.unique {left right : Partition} (first : ChecksumsHold left)
    (second : ChecksumsHold right) (same : SameOutside {offset | ChecksumByte offset} left right) :
    left = right := by
  have table : ∀ offset, 8 ≤ offset → offset < 512 → left.load8 offset = right.load8 offset := by
    intro offset low high
    have word : left.load32 (4 * (offset / 4)) = right.load32 (4 * (offset / 4)) := by
      rw [first.sectors _ (by omega) (by omega), second.sectors _ (by omega) (by omega)]
      exact sectorXor_congr same (by omega) (by omega)
    exact Mapping.load8_eq_of_load32 word (by omega) (by omega)
  have umip : left.load8 7 = right.load8 7 := by
    refine (xorRange_change_eq_iff (by omega : 7 < 0x10000) fun index bound apart => ?_).mp
      (first.umip.trans second.umip.symm)
    by_cases inTable : 8 ≤ index ∧ index < 512
    · exact table index inTable.1 inTable.2
    · refine same index (by unfold bootIfwiSize; omega) ?_
      rw [Set.mem_ofPred_eq, ChecksumByte]
      omega
  -- All bytes but those of the IFWI word are the same by now.
  have outside : ∀ offset < bootIfwiSize, offset < 0x112d8 ∨ 0x112dc ≤ offset →
      left.load8 offset = right.load8 offset := by
    intro offset inside apart
    by_cases checksum : ChecksumByte offset
    · unfold ChecksumByte at checksum
      rcases checksum with rfl | ⟨low, high⟩ | within
      · exact umip
      · exact table offset low high
      · omega
    · exact same offset inside checksum
  have ifwi : wordAt left 17590 = wordAt right 17590 := by
    refine (xorRange_change_eq_iff (by omega : 17590 < 0x100000) fun index bound apart => ?_).mp
      (first.ifwi.trans second.ifwi.symm)
    refine Mapping.load32_congr fun offset low high => outside offset ?_ (by omega)
    unfold bootIfwiSize
    omega
  refine Mapping.ext_load8 fun offset inside => ?_
  by_cases apart : offset < 0x112d8 ∨ 0x112dc ≤ offset
  · exact outside offset inside apart
  · exact Mapping.load8_eq_of_load32 ifwi (by omega) (by omega)

theorem xorUpdate_sameOutside (buffer : Partition) :
    SameOutside {offset | ChecksumByte offset} (xorUpdate buffer) buffer :=
  fun _ _ outside => xorUpdate_load8 buffer outside

/-- What `xor_update` makes of a partition does not depend on its checksums. -/
theorem xorUpdate_congr {left right : Partition}
    (same : SameOutside {offset | ChecksumByte offset} left right) :
    xorUpdate left = xorUpdate right :=
  (xorUpdate_checksumsHold left).unique (xorUpdate_checksumsHold right)
    ((xorUpdate_sameOutside left).trans (same.trans (xorUpdate_sameOutside right).symm))

/-! ## What a flash overwrites -/

/-- The bytes that images of at most `size` bytes can change. -/
def Reached (size : Nat) : Set Nat :=
  {offset | ChecksumByte offset ∨ offset < size ∧ ¬ TokenByte offset}

theorem reached_mono {size more : Nat} (bound : min size 0x400000 ≤ more) :
    Reached (min size 0x400000) ⊆ Reached more := by
  rintro offset (checksum | ⟨below, data⟩)
  · exact Or.inl checksum
  · exact Or.inr ⟨by omega, data⟩

/-- An update changes only the bytes it reaches. -/
theorem updated_sameOutside (before : Partition) (image : Image) :
    SameOutside (Reached (min image.size 0x400000))
      (xorUpdate (mergeImage before (image.data.take bootIfwiSize))) before := by
  have completed := completed_xorUpdate before image
  intro offset inside outside
  obtain ⟨checksum, data⟩ := not_or.mp outside
  by_cases token : TokenByte offset
  · exact completed.tokens offset token
  · have above : ¬ offset < min image.size 0x400000 := fun below => data ⟨below, token⟩
    exact completed.rest offset inside (Nat.not_lt.mp above) checksum

/-- An update overwrites what it reaches. -/
theorem updated_congr {left right : Partition} {image : Image}
    (same : SameOutside (Reached image.size) left right) :
    xorUpdate (mergeImage left (image.data.take bootIfwiSize)) =
      xorUpdate (mergeImage right (image.data.take bootIfwiSize)) := by
  refine xorUpdate_congr fun offset inside checksum => ?_
  rw [mergeImage_take_load8 _ _ inside, mergeImage_take_load8 _ _ inside]
  split
  next kept =>
    refine same offset inside ?_
    rintro (also | ⟨below, data⟩)
    · exact checksum also
    · have bound : offset < 0x400000 := inside
      rcases kept with token | above
      · exact data token
      · omega
  next => rfl

/-! ## Any number of flashes -/

/-- A call of `flash_ifwi_scu_emmc`, with the answers it gets. -/
structure Attempt where
  kernel : Kernel
  node : NodeRead
  image : Image

/-- One call after the other, whatever they return. -/
def flashAll (attempts : List Attempt) (device : Device) : Except Fault Device :=
  attempts.foldlM (fun device attempt =>
    (flashIfwiScuEmmc attempt.kernel attempt.node attempt.image device).map Prod.snd) device

/-- A refused call changes nothing. -/
theorem flashAll_refused {node : NodeRead} {image : Image} (refused : Refused image node)
    (kernel : Kernel) (attempts : List Attempt) (device : Device) :
    flashAll (⟨kernel, node, image⟩ :: attempts) device = flashAll attempts device := by
  rw [flashAll, List.foldlM_cons, flashIfwiScuEmmc_refused refused]
  rfl

/-- Any other makes its update. -/
theorem flashAll_passes {node : NodeRead} {image : Image} (passes : ¬ Refused image node)
    (kernel : Kernel) (attempts : List Attempt) (device : Device) :
    flashAll (⟨kernel, node, image⟩ :: attempts) device =
      flashAll attempts (updateIfwiFileScuEmmc kernel image device).2 := by
  rw [flashAll, List.foldlM_cons, flashIfwiScuEmmc_passes passes]
  rfl

/-- A partition that was flashed any number of times with at most `size` bytes. -/
structure Retried (size : Nat) (original partition : Partition) : Prop where
  frame : SameOutside (Reached size) partition original
  sealed : partition = original ∨ ChecksumsHold partition

theorem Retried.updated {size : Nat} {original partition : Partition}
    (retried : Retried size original partition) {image : Image}
    (bound : min image.size 0x400000 ≤ size) :
    Retried size original (xorUpdate (mergeImage partition (image.data.take bootIfwiSize))) where
  frame := ((updated_sameOutside partition image).mono (reached_mono bound)).trans retried.frame
  sealed := Or.inr (xorUpdate_checksumsHold _)

/-- Whatever calls fail, each partition is as it was or updated. -/
theorem updateIfwiFileScuEmmc_boot (kernel : Kernel) (image : Image) (device : Device)
    (index : Fin 2) :
    (updateIfwiFileScuEmmc kernel image device).2.boot index = device.boot index ∨
      (updateIfwiFileScuEmmc kernel image device).2.boot index = updated device image index := by
  obtain ⟨ret, after, log, run, -, -, outcome⟩ := updateIfwiFileScuEmmc_cases kernel image device
  rw [run]
  rcases outcome with ⟨-, progress⟩ | ⟨-, boot⟩
  · cases progress with
    | none same => exact Or.inl (congrFun same index)
    | first same =>
        match index with
        | 0 => exact Or.inr (by rw [same, Function.update_self])
        | 1 => exact Or.inl (by rw [same, Function.update_of_ne (by decide)])
    | both same => exact Or.inr (congrFun same index)
  · exact Or.inr (congrFun boot index)

/-- What one call preserves. -/
theorem retried_step {size : Nat} {original : Fin 2 → Partition} {device after : Device} {ret : Int}
    {attempt : Attempt} (retried : ∀ index, Retried size (original index) (device.boot index))
    (bound : min attempt.image.size 0x400000 ≤ size)
    (run : flashIfwiScuEmmc attempt.kernel attempt.node attempt.image device = .ok (ret, after))
    (index : Fin 2) : Retried size (original index) (after.boot index) := by
  by_cases refused : Refused attempt.image attempt.node
  · rw [flashIfwiScuEmmc_refused refused] at run
    cases run
    exact retried index
  · rw [flashIfwiScuEmmc_passes refused] at run
    cases run
    rcases updateIfwiFileScuEmmc_boot attempt.kernel attempt.image device index with same | same
    · rw [same]
      exact retried index
    · rw [same]
      exact (retried index).updated bound

/-- What any number of calls preserves. -/
theorem flashAll_retried {size : Nat} {original : Fin 2 → Partition} {attempts : List Attempt}
    {device after : Device} (retried : ∀ index, Retried size (original index) (device.boot index))
    (bound : ∀ attempt ∈ attempts, min attempt.image.size 0x400000 ≤ size)
    (run : flashAll attempts device = .ok after) (index : Fin 2) :
    Retried size (original index) (after.boot index) := by
  induction attempts generalizing device with
  | nil =>
      cases run
      exact retried index
  | cons attempt attempts ih =>
      rw [flashAll, List.foldlM_cons] at run
      cases first : flashIfwiScuEmmc attempt.kernel attempt.node attempt.image device with
      | error fault =>
          rw [first] at run
          cases run
      | ok returned =>
          obtain ⟨ret, next⟩ := returned
          rw [first] at run
          exact ih (retried_step retried (bound attempt List.mem_cons_self) first)
            (fun other member => bound other (List.mem_cons_of_mem _ member)) run

/-- Whatever the calls return, they leave each partition as it was or with checksums that hold,
with the tokens of the device, and with what lies behind the images but for the checksums. -/
theorem flashAll_boot {attempts : List Attempt} {device after : Device} {size : Nat}
    (bound : ∀ attempt ∈ attempts, attempt.image.size ≤ size)
    (run : flashAll attempts device = .ok after) (index : Fin 2) :
    (after.boot index = device.boot index ∨ ChecksumsHold (after.boot index)) ∧
      ∀ offset < bootIfwiSize, ¬ ChecksumByte offset → TokenByte offset ∨ size ≤ offset →
        (after.boot index).load8 offset = (device.boot index).load8 offset := by
  have start : ∀ index, Retried size (device.boot index) (device.boot index) :=
    fun index => ⟨.refl _ _, Or.inl rfl⟩
  have covered : ∀ attempt ∈ attempts, min attempt.image.size 0x400000 ≤ size :=
    fun attempt member => (Nat.min_le_left _ _).trans (bound attempt member)
  have retried := flashAll_retried start covered run index
  refine ⟨retried.sealed, fun offset inside checksum kept => retried.frame offset inside ?_⟩
  rintro (also | ⟨below, data⟩)
  · exact checksum also
  · exact kept.elim data (Nat.not_le.mpr below)

/-- The second partition cannot be mapped. -/
def Kernel.halfway : Kernel := { Kernel.reliable with mmap := fun calls => calls < 16 }

/-- The update then fails when the first partition is written. -/
theorem update_halfway : (updateIfwiFileScuEmmc .halfway .oneByte .blank).1 = -1 ∧
    (updateIfwiFileScuEmmc .halfway .oneByte .blank).2.boot =
      Function.update Device.blank.boot 0 (updated .blank .oneByte 0) := by
  refine ⟨rfl, ?_⟩
  rw [updated, ← memcpy_tokens_eq_mergeImage]
  simp [updateIfwiFileScuEmmc, writeUmipEmmc, writeBoot, setForceRo, Kernel.halfway,
    Kernel.reliable, errBoot1, Device.call, Device.store, payload, Image.oneByte, Device.blank,
    ifwiOffset, bootIfwiSize]

/-- A flash that is refused, then one that fails when it has written the first partition. -/
theorem flashAll_boot_halfway :
    ∃ after, flashAll [⟨.reliable, .openFailed, .oneByte⟩, ⟨.halfway, .notANumber, .oneByte⟩]
        .blank = .ok after ∧
      (after.boot 0).load8 0 = 0xAA#8 ∧ ChecksumsHold (after.boot 0) ∧
      (after.boot 0).load8 1 = (Device.blank.boot 0).load8 1 := by
  have run : flashAll [⟨.reliable, .openFailed, .oneByte⟩, ⟨.halfway, .notANumber, .oneByte⟩]
      .blank = .ok (updateIfwiFileScuEmmc .halfway .oneByte .blank).2 := by
    rw [flashAll_refused .openFailed, flashAll_passes notANumber_passes]
    rfl
  have bound : ∀ attempt ∈ [(⟨.reliable, .openFailed, .oneByte⟩ : Attempt),
      ⟨.halfway, .notANumber, .oneByte⟩], attempt.image.size ≤ 1 := by
    intro attempt member
    rcases List.mem_cons.mp member with rfl | member
    · decide
    · rw [List.mem_singleton.mp member]
      decide
  have kept := flashAll_boot bound run 0
  have written : (updateIfwiFileScuEmmc .halfway .oneByte .blank).2.boot 0 =
      updated .blank .oneByte 0 := by
    rw [update_halfway.2, Function.update_self]
  have byte : (updated .blank .oneByte 0).load8 0 = 0xAA#8 :=
    (completed_xorUpdate (Device.blank.boot 0) .oneByte).data 0 (by decide) (by decide) (by decide)
  have changed : updated .blank .oneByte 0 ≠ Device.blank.boot 0 := by
    intro same
    rw [same, Device.blank, Mapping.load8_ofFn _ (by decide)] at byte
    exact absurd byte (by decide)
  refine ⟨_, run, ?_, kept.1.resolve_left ?_, kept.2 1 (by decide) (by decide) (Or.inr le_rfl)⟩
  · rw [written, byte]
  · rw [written]
    exact changed

/-- An update that returns 0 has updated both partitions. -/
theorem boot_of_update {kernel : Kernel} {image : Image} {before after : Device}
    (run : updateIfwiFileScuEmmc kernel image before = (0, after)) :
    after.boot = updated before image := by
  obtain ⟨ret, result, log, updates, -, -, outcome⟩ :=
    updateIfwiFileScuEmmc_cases kernel image before
  rw [run, Prod.mk.injEq] at updates
  obtain ⟨rfl, rfl⟩ := updates
  rcases outcome with ⟨failed, -⟩ | ⟨-, boot⟩
  · cases failed
  · exact boot

/-- A flash that returns 0 has made the update. -/
theorem update_of_flash {kernel : Kernel} {node : NodeRead} {image : Image} {before after : Device}
    (run : flashIfwiScuEmmc kernel node image before = .ok (0, after)) :
    updateIfwiFileScuEmmc kernel image before = (0, after) := by
  by_cases refused : Refused image node
  · rw [flashIfwiScuEmmc_refused refused] at run
    cases run
  · rw [flashIfwiScuEmmc_passes refused] at run
    exact Except.ok.inj run

/-- However many flashes failed before, and at whichever call, a flash that returns 0 leaves the
partitions that it would have left as the only one, if no image before it was longer. -/
theorem retried_boot {attempts : List Attempt} {device before after : Device} {last : Attempt}
    (covered : ∀ attempt ∈ attempts, min attempt.image.size 0x400000 ≤ last.image.size)
    (failures : flashAll attempts device = .ok before)
    (succeeds : flashIfwiScuEmmc last.kernel last.node last.image before = .ok (0, after)) :
    after.boot = updated device last.image ∧ ∀ index, ChecksumsHold (after.boot index) := by
  have start : ∀ index, Retried last.image.size (device.boot index) (device.boot index) :=
    fun index => ⟨.refl _ _, Or.inl rfl⟩
  have retried := flashAll_retried start covered failures
  have boot := boot_of_update (update_of_flash succeeds)
  have same : updated before last.image = updated device last.image :=
    funext fun index => updated_congr (retried index).frame
  refine ⟨boot.trans same, fun index => ?_⟩
  rw [boot]
  exact xorUpdate_checksumsHold _

/-- After a flash that has left the partitions with different contents. -/
theorem retried_boot_halfway :
    ∃ before after, flashAll [⟨.halfway, .notANumber, .oneByte⟩] .blank = .ok before ∧
      before.boot = Function.update Device.blank.boot 0 (updated .blank .oneByte 0) ∧
      flashIfwiScuEmmc .reliable .notANumber .oneByte before = .ok (0, after) ∧
      after.boot = updated .blank .oneByte ∧ ∀ index, ChecksumsHold (after.boot index) := by
  have failed : flashAll [⟨.halfway, .notANumber, .oneByte⟩] .blank =
      .ok (updateIfwiFileScuEmmc .halfway .oneByte .blank).2 :=
    flashAll_passes notANumber_passes _ _ _
  obtain ⟨returned, -⟩ := updateIfwiFileScuEmmc_succeeds Kernel.reliable_succeeds .oneByte
    (updateIfwiFileScuEmmc .halfway .oneByte .blank).2
  have flashed := flashIfwiScuEmmc_passes notANumber_passes .reliable
    (updateIfwiFileScuEmmc .halfway .oneByte .blank).2
  rw [returned] at flashed
  have covered : ∀ attempt ∈ [(⟨.halfway, .notANumber, .oneByte⟩ : Attempt)],
      min attempt.image.size 0x400000 ≤ Image.oneByte.size := by
    intro attempt member
    rw [List.mem_singleton.mp member]
    decide
  exact ⟨_, _, failed, update_halfway.2, flashed,
    @retried_boot _ _ _ _ ⟨.reliable, .notANumber, .oneByte⟩ covered failed flashed⟩

/-! ## What the checksums detect -/

/-- One word of the partition has changed. -/
structure DamagedAt (buffer damaged : Partition) (index : Nat) : Prop where
  inside : index < 0x100000
  changed : wordAt damaged index ≠ wordAt buffer index
  rest : ∀ other < 0x100000, other ≠ index → wordAt damaged other = wordAt buffer other

theorem xorFactorize_xor (left right : Word) :
    xorFactorize (left ^^^ right) = xorFactorize left ^^^ xorFactorize right := by
  simp only [xorFactorize_eq, Word.byte_xor]
  ac_rfl

namespace DamagedAt

variable {buffer damaged : Partition} {index : Nat}

/-- Storing another word damages the partition there and nowhere else. -/
theorem of_store32 {value : Word} (inside : index < 0x100000)
    (changed : value ≠ wordAt buffer index) :
    DamagedAt buffer (buffer.store32 (4 * index) value) index where
  inside := inside
  changed := by
    rw [wordAt, Mapping.load32_store32_self _ _ (by unfold bootIfwiSize; omega)]
    exact changed
  rest other _ apart :=
    Mapping.load32_congr fun offset low high => Mapping.load8_store32_ne _ _ (by omega)

theorem load32_eq (damage : DamagedAt buffer damaged index) {offset : Nat} (aligned : 4 ∣ offset)
    (inside : offset < 0x400000) (apart : offset ≠ 4 * index) :
    damaged.load32 offset = buffer.load32 offset := by
  obtain ⟨other, rfl⟩ := aligned
  exact damage.rest other (by omega) (by omega)

/-- The sector of the word folds to something else, every other one to the same. -/
theorem sectorXor_eq_iff (damage : DamagedAt buffer damaged index) {sector : Nat}
    (high : sector < 128) :
    sectorXor damaged sector = sectorXor buffer sector ↔ index / 128 ≠ sector := by
  by_cases within : index / 128 = sector
  · refine iff_of_false (fun same => ?_) (not_not.mpr within)
    have place : 512 * sector + 4 * (index % 128) = 4 * index := by omega
    have changed := (xorRange_change_eq_iff
      (f := fun term => buffer.load32 (512 * sector + 4 * term))
      (g := fun term => damaged.load32 (512 * sector + 4 * term))
      (Nat.mod_lt index (by omega : 0 < 128)) fun term bound apart =>
        damage.load32_eq (by omega) (by omega) (by omega)).mp same
    rw [place] at changed
    exact damage.changed changed
  · refine iff_of_true (xorRange_congr fun term bound => ?_) within
    exact damage.load32_eq (by omega) (by omega) (by omega)

/-- An entry of the sector table still holds unless the word is the entry or lies in its sector. -/
theorem entry_iff (damage : DamagedAt buffer damaged index) {sector : Nat} (high : sector < 128)
    (holds : buffer.load32 (4 * sector) = sectorXor buffer sector) (low : 2 ≤ sector) :
    damaged.load32 (4 * sector) = sectorXor damaged sector ↔
      index ≠ sector ∧ index / 128 ≠ sector := by
  by_cases entry : index = sector
  · refine iff_of_false (fun same => ?_) fun apart => apart.1 entry
    rw [(damage.sectorXor_eq_iff high).mpr (by omega), ← holds, ← entry] at same
    exact damage.changed same
  · rw [damage.load32_eq (by omega) (by omega) (by omega), holds, eq_comm,
      damage.sectorXor_eq_iff high]
    exact ⟨fun apart => ⟨entry, apart⟩, And.right⟩

theorem ifwi_ne (damage : DamagedAt buffer damaged index)
    (holds : xorRange (wordAt buffer) 0x100000 = 0#32) :
    xorRange (wordAt damaged) 0x100000 ≠ 0#32 := by
  intro same
  exact damage.changed
    ((xorRange_change_eq_iff damage.inside damage.rest).mp (same.trans holds.symm))

/-- The UMIP byte misses a change of the word if and only if its fold does. -/
theorem umip_iff (damage : DamagedAt buffer damaged index)
    (holds : xorRange buffer.load8 0x10000 = 0#8) :
    xorRange damaged.load8 0x10000 = 0#8 ↔
      (index < 0x4000 →
        xorFactorize (wordAt damaged index) = xorFactorize (wordAt buffer index)) := by
  have bytes : ∀ mapping : Partition, xorRange mapping.load8 0x10000 =
      xorFactorize (xorRange (wordAt mapping) 0x4000) :=
    fun mapping => (xorFactorize_words mapping 0x4000).symm
  rw [bytes] at holds
  rw [bytes]
  by_cases inside : index < 0x4000
  · rw [xorRange_change inside fun other bound => damage.rest other (by omega), xorFactorize_xor,
      holds, BitVec.zero_xor, xorFactorize_xor, BitVec.xor_eq_zero_iff]
    exact ⟨fun same _ => same.symm, fun same => (same inside).symm⟩
  · rw [xorRange_congr fun other bound => damage.rest other (by omega) (by omega), holds]
    exact iff_of_true rfl fun below => absurd below inside

end DamagedAt

/-- What the checks of a flashed partition say about one changed word: the IFWI word no longer
holds, the table points to the sector of the word or to the entry itself, and the UMIP byte misses
only changes that its fold cannot see. -/
theorem damage_located {buffer damaged : Partition} {index : Nat} (holds : ChecksumsHold buffer)
    (damage : DamagedAt buffer damaged index) :
    xorRange (wordAt damaged) 0x100000 ≠ 0#32 ∧
    (∀ sector, 2 ≤ sector → sector < 128 →
      (damaged.load32 (4 * sector) = sectorXor damaged sector ↔
        index ≠ sector ∧ index / 128 ≠ sector)) ∧
    (xorRange damaged.load8 0x10000 = 0#8 ↔
      (index < 0x4000 →
        xorFactorize (wordAt damaged index) = xorFactorize (wordAt buffer index))) :=
  ⟨damage.ifwi_ne holds.ifwi,
    fun sector low high => damage.entry_iff high (holds.sectors sector low high) low,
    damage.umip_iff holds.umip⟩

theorem damage_located_sector_two :
    ∃ damaged, DamagedAt (xorUpdate (Device.blank.boot 0)) damaged 300 ∧
      damaged.load32 8 ≠ sectorXor damaged 2 := by
  have changed : wordAt (xorUpdate (Device.blank.boot 0)) 300 ^^^ 1#32 ≠
      wordAt (xorUpdate (Device.blank.boot 0)) 300 := by
    generalize wordAt (xorUpdate (Device.blank.boot 0)) 300 = word
    intro same
    rw [← BitVec.xor_zero (x := word), BitVec.xor_assoc, BitVec.xor_right_inj] at same
    exact absurd same (by decide)
  have damage := DamagedAt.of_store32 (by omega : 300 < 0x100000) changed
  have table := (damage_located (xorUpdate_checksumsHold _) damage).2.1 2 le_rfl (by omega)
  exact ⟨_, damage, fun holds => (table.mp holds).2 (by omega)⟩

end T00F.Recovery
