import T00F.Systems.Mapping
import T00F.Systems.Xor

/-!
# IFWI checksums

`xor_update` of `recovery_updater.cpp` recomputes three families of checksums
inside one mapped boot partition: the table of UMIP sectors 2 to 127, the UMIP
byte and the IFWI word. Each of them lies in a range that a later one covers.
`ChecksumsHold` states the three families together; `xorUpdate_checksumsHold`
establishes them and `ChecksumsHold.xorUpdate_eq` shows that they determine
every byte `xorUpdate` writes.
-/

namespace T00F.Recovery

open Systems

/-- `BOOT_IFWI_SIZE` -/
def bootIfwiSize : Nat := 0x400000

/-- `BOOT_UMIP_SIZE` -/
def bootUmipSize : Nat := 0x10000

/-- `BOOT_UMIP_SECTOR_SIZE` -/
def bootUmipSectorSize : Nat := 0x200

/-- `BOOT_UMIP_XOR_OFFSET` -/
def bootUmipXorOffset : Nat := 0x7

/-- `BOOT_IFWI_XOR_OFFSET` -/
def bootIfwiXorOffset : Nat := 0x0112d8

/-- The mapped part of a boot partition. -/
abbrev Partition := Mapping bootIfwiSize

/-- Exclusive or of the words of the `size` bytes at `ptr`. -/
def xorCompute (buffer : Partition) (ptr size : Nat) : Word :=
  (List.range' 0 ((size + 3) / 4) 4).foldl (fun val i => val ^^^ buffer.load32 (ptr + i)) 0#32

/-- Exclusive or of the four bytes of a word. -/
def xorFactorize (val : Word) : Byte :=
  ((val &&& 0xff#32) ^^^ ((val >>> 8) &&& 0xff#32) ^^^ ((val >>> 16) &&& 0xff#32) ^^^
    ((val >>> 24) &&& 0xff#32)).setWidth 8

/-- The loop over `count` sectors from sector 2 on. -/
def updateSectorTable (buffer : Partition) (count : Nat) : Partition :=
  (List.range' 2 count).foldl
    (fun buffer i => buffer.store32 (4 * i)
      (xorCompute buffer (i * bootUmipSectorSize) bootUmipSectorSize)) buffer

/-- Clear and recompute the UMIP byte. -/
def updateUmipXor (buffer : Partition) : Partition :=
  let buffer := buffer.store8 bootUmipXorOffset 0#8
  let val := xorCompute buffer 0 bootUmipSize
  buffer.store8 bootUmipXorOffset (xorFactorize val)

/-- Clear and recompute the IFWI word. -/
def updateIfwiXor (buffer : Partition) : Partition :=
  let buffer := buffer.store32 bootIfwiXorOffset 0#32
  let val := xorCompute buffer 0 bootIfwiSize
  buffer.store32 bootIfwiXorOffset val

/-- The three checksum updates in the order of the source: sectors 2 to 127,
then the UMIP byte, then the IFWI word. -/
def xorUpdate (buffer : Partition) : Partition :=
  updateIfwiXor (updateUmipXor (updateSectorTable buffer 126))

/-! ## What the checksums say -/

/-- The word at word index `index`. -/
def wordAt (buffer : Partition) (index : Nat) : Word := buffer.load32 (4 * index)

/-- The exclusive or of the 128 words of a UMIP sector. -/
def sectorXor (buffer : Partition) (sector : Nat) : Word :=
  xorRange (fun index => buffer.load32 (512 * sector + 4 * index)) 128

/-- The bytes that hold checksums. -/
def ChecksumByte (offset : Nat) : Prop :=
  offset = 7 ∨ (8 ≤ offset ∧ offset < 512) ∨ (0x112d8 ≤ offset ∧ offset < 0x112dc)

instance (offset : Nat) : Decidable (ChecksumByte offset) := by
  unfold ChecksumByte
  infer_instance

/-- All three checksum families hold at once. -/
structure ChecksumsHold (buffer : Partition) : Prop where
  sectors : ∀ i, 2 ≤ i → i < 128 → buffer.load32 (4 * i) = sectorXor buffer i
  umip : xorRange buffer.load8 0x10000 = 0#8
  ifwi : xorRange (wordAt buffer) 0x100000 = 0#32

/-- `xor_compute` folds the words from its pointer on. -/
theorem xorCompute_eq (buffer : Partition) (ptr count : Nat) :
    xorCompute buffer ptr (4 * count) =
      xorRange (fun index => buffer.load32 (ptr + 4 * index)) count := by
  have iterations : (4 * count + 3) / 4 = count := by omega
  rw [xorCompute, iterations]
  induction count with
  | zero => rfl
  | succ count ih =>
      rw [List.range'_concat, List.foldl_append, ih (by omega), xorRange_succ]
      simp

/-- `xor_compute` over one sector is the sector's fold. -/
theorem xorCompute_sector (buffer : Partition) (i : Nat) :
    xorCompute buffer (i * bootUmipSectorSize) bootUmipSectorSize = sectorXor buffer i := by
  rw [sectorXor, Nat.mul_comm 512 i]
  exact xorCompute_eq buffer (i * 512) 128

/-- `xor_compute` from the start folds the words of the partition. -/
theorem xorCompute_words (buffer : Partition) (count : Nat) :
    xorCompute buffer 0 (4 * count) = xorRange (wordAt buffer) count := by
  rw [xorCompute_eq]
  exact xorRange_congr fun index _ => by rw [wordAt, Nat.zero_add]

private theorem lowByte_mask : ∀ place : Fin 8, (255#8)[place.val] = true := by decide

/-- `xor_factorize` folds the four bytes of a word. -/
theorem xorFactorize_eq (val : Word) :
    xorFactorize val = val.byte 0 ^^^ val.byte 1 ^^^ val.byte 2 ^^^ val.byte 3 := by
  ext bit bound
  have mask := lowByte_mask ⟨bit, bound⟩
  simp_all [xorFactorize, Word.byte]

/-- `xorFactorize` folds a fold of words to the fold of their bytes. -/
theorem xorFactorize_words (buffer : Partition) (count : Nat) :
    xorFactorize (xorRange (wordAt buffer) count) = xorRange buffer.load8 (4 * count) := by
  rw [xorRange_mul]
  induction count with
  | zero => simp [xorFactorize]
  | succ count ih =>
      rw [xorRange_succ, xorRange_succ, ← ih]
      simp only [xorFactorize_eq, Word.byte_xor, wordAt, Mapping.load32, xorRange_succ,
        xorRange_zero, Word.byte_ofBytes_zero, Word.byte_ofBytes_one, Word.byte_ofBytes_two,
        Word.byte_ofBytes_three, Nat.add_zero]
      rw [BitVec.zero_xor]
      ac_rfl

/-! ## The sector table -/

/-- The table loop writes the words from offset 8 on, and reads sectors that lie
beyond the table. -/
theorem updateSectorTable_spec (buffer : Partition) {count : Nat} (bound : count ≤ 126) :
    (∀ offset, offset < 8 ∨ 8 + 4 * count ≤ offset →
      (updateSectorTable buffer count).load8 offset = buffer.load8 offset) ∧
    ∀ i, 2 ≤ i → i < 2 + count →
      (updateSectorTable buffer count).load32 (4 * i) = sectorXor buffer i := by
  induction count with
  | zero => exact ⟨fun _ _ => rfl, fun i low high => by omega⟩
  | succ count ih =>
      obtain ⟨frame, table⟩ := ih (by omega)
      have unfolded : updateSectorTable buffer (count + 1) =
          (updateSectorTable buffer count).store32 (4 * (2 + count))
            (sectorXor (updateSectorTable buffer count) (2 + count)) := by
        rw [← xorCompute_sector]
        simp [updateSectorTable, List.range'_concat]
      have sector : sectorXor (updateSectorTable buffer count) (2 + count) =
          sectorXor buffer (2 + count) :=
        xorRange_congr fun index _ => Mapping.load32_congr fun offset _ _ => frame offset (by omega)
      rw [unfolded, sector]
      constructor
      · intro offset outside
        rw [Mapping.load8_store32_ne _ _ (by omega), frame offset (by omega)]
      · intro i low high
        by_cases last : i = 2 + count
        · subst last
          exact Mapping.load32_store32_self _ _ (by unfold bootIfwiSize; omega)
        · rw [← table i low (by omega)]
          exact Mapping.load32_congr fun offset _ _ => Mapping.load8_store32_ne _ _ (by omega)

/-- A table that is already right is rewritten with what it holds. -/
theorem updateSectorTable_eq {buffer : Partition} {count : Nat} (bound : count ≤ 126)
    (table : ∀ i, 2 ≤ i → i < 2 + count → buffer.load32 (4 * i) = sectorXor buffer i) :
    updateSectorTable buffer count = buffer := by
  induction count with
  | zero => rfl
  | succ count ih =>
      have before := ih (by omega) fun i low high => table i low (by omega)
      have unfolded : updateSectorTable buffer (count + 1) =
          (updateSectorTable buffer count).store32 (4 * (2 + count))
            (sectorXor (updateSectorTable buffer count) (2 + count)) := by
        rw [← xorCompute_sector]
        simp [updateSectorTable, List.range'_concat]
      rw [unfolded, before]
      exact Mapping.store32_load32 _ (table (2 + count) (by omega) (by omega))

/-! ## The UMIP byte -/

/-- The UMIP checksum is stored over a cleared byte 7. -/
theorem updateUmipXor_eq_store8 (buffer : Partition) :
    updateUmipXor buffer = (buffer.store8 7 0#8).store8 7
      (xorRange (buffer.store8 7 0#8).load8 0x10000) := by
  have words := xorCompute_words (buffer.store8 7 0#8) 0x4000
  have bytes := xorFactorize_words (buffer.store8 7 0#8) 0x4000
  simp only [updateUmipXor, bootUmipXorOffset, bootUmipSize]
  rw [words, bytes]

/-- The UMIP update touches only byte 7. -/
theorem updateUmipXor_load8 (buffer : Partition) {offset : Nat} (apart : offset ≠ 7) :
    (updateUmipXor buffer).load8 offset = buffer.load8 offset := by
  rw [updateUmipXor_eq_store8, Mapping.load8_store8_ne _ _ apart.symm,
    Mapping.load8_store8_ne _ _ apart.symm]

/-- Afterwards the bytes of the UMIP fold to zero. -/
theorem updateUmipXor_umip (buffer : Partition) :
    xorRange (updateUmipXor buffer).load8 0x10000 = 0#8 := by
  have inside : 7 < bootIfwiSize := by unfold bootIfwiSize; omega
  rw [updateUmipXor_eq_store8]
  apply xorRange_seal 7 (by omega) _ _ (Mapping.load8_store8_self _ _ inside)
  · intro index _ apart
    exact Mapping.load8_store8_ne _ _ apart.symm
  · exact Mapping.load8_store8_self _ _ inside

/-- A valid UMIP checksum is stored again as it is. -/
theorem updateUmipXor_eq {buffer : Partition}
    (umip : xorRange buffer.load8 0x10000 = 0#8) : updateUmipXor buffer = buffer := by
  have inside : 7 < bootIfwiSize := by unfold bootIfwiSize; omega
  have cleared := xorRange_unseal (g := (buffer.store8 7 0#8).load8) 7
    (by omega : 7 < 0x10000)
    (fun index _ apart => Mapping.load8_store8_ne _ _ apart.symm)
    (Mapping.load8_store8_self _ _ inside) umip
  rw [updateUmipXor_eq_store8, cleared]
  apply Mapping.ext_load8
  intro offset _
  by_cases same : 7 = offset
  · subst same
    exact Mapping.load8_store8_self _ _ inside
  · rw [Mapping.load8_store8_ne _ _ same, Mapping.load8_store8_ne _ _ same]

/-! ## The IFWI word -/

/-- The IFWI checksum is stored over its own cleared word. -/
theorem updateIfwiXor_eq_store32 (buffer : Partition) :
    updateIfwiXor buffer = (buffer.store32 0x112d8 0#32).store32 0x112d8
      (xorRange (wordAt (buffer.store32 0x112d8 0#32)) 0x100000) := by
  have words := xorCompute_words (buffer.store32 0x112d8 0#32) 0x100000
  simp only [updateIfwiXor, bootIfwiXorOffset, bootIfwiSize]
  exact congrArg _ words

/-- The IFWI update touches only the four bytes of its word. -/
theorem updateIfwiXor_load8 (buffer : Partition) {offset : Nat}
    (apart : offset < 0x112d8 ∨ 0x112dc ≤ offset) :
    (updateIfwiXor buffer).load8 offset = buffer.load8 offset := by
  rw [updateIfwiXor_eq_store32, Mapping.load8_store32_ne _ _ (by omega),
    Mapping.load8_store32_ne _ _ (by omega)]

/-- Storing the IFWI word leaves the other words. -/
theorem wordAt_store32_ne (buffer : Partition) (value : Word) {index : Nat}
    (apart : index ≠ 17590) : wordAt (buffer.store32 0x112d8 value) index = wordAt buffer index :=
  Mapping.load32_congr fun _ _ _ => Mapping.load8_store32_ne _ _ (by omega)

/-- The stored IFWI word is read back. -/
theorem wordAt_store32_self (buffer : Partition) (value : Word) :
    wordAt (buffer.store32 0x112d8 value) 17590 = value :=
  Mapping.load32_store32_self _ _ (by unfold bootIfwiSize; omega)

/-- Afterwards the words of the whole partition fold to zero. -/
theorem updateIfwiXor_ifwi (buffer : Partition) :
    xorRange (wordAt (updateIfwiXor buffer)) 0x100000 = 0#32 := by
  rw [updateIfwiXor_eq_store32]
  apply xorRange_seal 17590 (by omega) _ _ (wordAt_store32_self _ _)
  · intro index _ apart
    exact wordAt_store32_ne _ _ apart
  · exact wordAt_store32_self _ _

/-- A valid IFWI checksum is stored again as it is. -/
theorem updateIfwiXor_eq {buffer : Partition}
    (ifwi : xorRange (wordAt buffer) 0x100000 = 0#32) : updateIfwiXor buffer = buffer := by
  have cleared := xorRange_unseal (g := wordAt (buffer.store32 0x112d8 0#32)) 17590
    (by omega : 17590 < 0x100000) (fun index _ apart => wordAt_store32_ne _ _ apart)
    (wordAt_store32_self _ _) ifwi
  rw [updateIfwiXor_eq_store32, cleared,
    Mapping.store32_store32_self _ _ _ (by unfold bootIfwiSize; omega)]
  exact Mapping.store32_load32 _ rfl

/-! ## All three together -/

/-- Only checksum bytes are written. -/
theorem xorUpdate_load8 (buffer : Partition) {offset : Nat} (data : ¬ ChecksumByte offset) :
    (xorUpdate buffer).load8 offset = buffer.load8 offset := by
  unfold ChecksumByte at data
  rw [xorUpdate, updateIfwiXor_load8 _ (by omega), updateUmipXor_load8 _ (by omega),
    (updateSectorTable_spec buffer (Nat.le_refl 126)).1 offset (by omega)]

/-- The later updates stay clear of the sectors and of the table: byte 7 precedes
the table, and the IFWI word lies behind sector 127. -/
theorem xorUpdate_sectors (buffer : Partition) {i : Nat} (low : 2 ≤ i) (high : i < 128) :
    (xorUpdate buffer).load32 (4 * i) = sectorXor (xorUpdate buffer) i := by
  have later : ∀ offset, 8 ≤ offset → offset < 0x10000 →
      (xorUpdate buffer).load8 offset = (updateSectorTable buffer 126).load8 offset := by
    intro offset _ _
    rw [xorUpdate, updateIfwiXor_load8 _ (by omega), updateUmipXor_load8 _ (by omega)]
  obtain ⟨frame, table⟩ := updateSectorTable_spec buffer (Nat.le_refl 126)
  calc
    (xorUpdate buffer).load32 (4 * i) = (updateSectorTable buffer 126).load32 (4 * i) :=
      Mapping.load32_congr fun offset _ _ => later offset (by omega) (by omega)
    _ = sectorXor buffer i := table i low high
    _ = sectorXor (xorUpdate buffer) i :=
      xorRange_congr fun index _ => Mapping.load32_congr fun offset _ _ => by
        rw [later offset (by omega) (by omega), frame offset (by omega)]

/-- After `xor_update` all three kinds of checksum hold. -/
theorem xorUpdate_checksumsHold (buffer : Partition) : ChecksumsHold (xorUpdate buffer) where
  sectors _ low high := xorUpdate_sectors buffer low high
  umip := by
    -- The IFWI word lies outside the UMIP, so the last update keeps its fold.
    rw [← updateUmipXor_umip (updateSectorTable buffer 126)]
    exact xorRange_congr fun index _ => updateIfwiXor_load8 _ (by omega)
  ifwi := updateIfwiXor_ifwi _

/-- A partition whose checksums hold is left as it is. -/
theorem ChecksumsHold.xorUpdate_eq {buffer : Partition} (holds : ChecksumsHold buffer) :
    xorUpdate buffer = buffer := by
  have table : updateSectorTable buffer 126 = buffer :=
    updateSectorTable_eq (Nat.le_refl 126) holds.sectors
  rw [xorUpdate, table, updateUmipXor_eq holds.umip, updateIfwiXor_eq holds.ifwi]

/-- After `xor_update` the sector table, the UMIP byte and the IFWI word are all
valid at once, no other byte has changed, and a second update changes nothing. -/
theorem xorUpdate_valid (buffer : Partition) :
    (∀ i, 2 ≤ i → i < 128 → (xorUpdate buffer).load32 (4 * i) =
      xorRange (fun index => (xorUpdate buffer).load32 (512 * i + 4 * index)) 128) ∧
    xorRange (xorUpdate buffer).load8 0x10000 = 0#8 ∧
    xorRange (fun index => (xorUpdate buffer).load32 (4 * index)) 0x100000 = 0#32 ∧
    (∀ offset, ¬ (offset = 7 ∨ (8 ≤ offset ∧ offset ≤ 511) ∨
      (0x112d8 ≤ offset ∧ offset ≤ 0x112db)) →
      (xorUpdate buffer).load8 offset = buffer.load8 offset) ∧
    xorUpdate (xorUpdate buffer) = xorUpdate buffer := by
  have holds := xorUpdate_checksumsHold buffer
  refine ⟨holds.sectors, holds.umip, holds.ifwi, fun offset data => ?_, holds.xorUpdate_eq⟩
  exact xorUpdate_load8 buffer (by unfold ChecksumByte; omega)

end T00F.Recovery
