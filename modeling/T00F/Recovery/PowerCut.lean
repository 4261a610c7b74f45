import T00F.Recovery.Retry

/-!
# Loss of power during an update

The boot partitions are rewritten through shared mappings, so that a loss of power leaves any
mixture of what a mapping held until its partition was closed (`Cut`). `cut_guarded` says
what always survives, `cut_recovers_iff` for which images a later flash makes up for the cut:
the token area is overwritten before it is put back.
-/

namespace T00F.Recovery

open Systems

/-! ## What a mapping holds meanwhile -/

/-- The contents of the mapped memory during `xor_update`. -/
def xorVersions (ptr : Partition) : List Partition :=
  let table := updateSectorTable ptr 126
  (List.range 127).map (updateSectorTable ptr) ++
    [table.store8 bootUmipXorOffset 0#8, updateUmipXor table,
      (updateUmipXor table).store32 bootIfwiXorOffset 0#32, xorUpdate ptr]

/-- The contents of the mapped memory from `mmap` to `munmap`. -/
def writtenVersions (data : List Byte) (ptr : Partition) : List Partition :=
  let copied := ptr.memcpy ifwiOffset data
  let restored :=
    copied.memcpy tokenUmipAreaOffset (ptr.slice tokenUmipAreaOffset tokenUmipAreaSize)
  ptr :: copied :: xorVersions restored

/-- Nothing but the checksums changes while they are updated. -/
theorem xorVersions_sameOutside (ptr : Partition) :
    ∀ version ∈ xorVersions ptr, SameOutside {offset | ChecksumByte offset} version ptr := by
  have table {count : Nat} (bound : count ≤ 126) :
      SameOutside {offset | ChecksumByte offset} (updateSectorTable ptr count) ptr := by
    intro offset _ outside
    rw [Set.mem_ofPred_eq, ChecksumByte] at outside
    exact (updateSectorTable_spec ptr bound).1 offset (by omega)
  have umip : SameOutside {offset | ChecksumByte offset}
      (updateUmipXor (updateSectorTable ptr 126)) ptr := by
    intro offset inside outside
    rw [updateUmipXor_load8 _ fun same => outside (Or.inl same)]
    exact table le_rfl offset inside outside
  simp only [xorVersions, List.mem_append, List.mem_map, List.mem_range, List.mem_cons,
    List.not_mem_nil, or_false]
  rintro version (⟨count, bound, rfl⟩ | rfl | rfl | rfl | rfl)
  · exact table (by omega)
  · intro offset inside outside
    rw [bootUmipXorOffset, Mapping.load8_store8_ne _ _ fun same => outside (Or.inl same.symm)]
    exact table le_rfl offset inside outside
  · exact umip
  · intro offset inside outside
    have apart : ¬ (0x112d8 ≤ offset ∧ offset < 0x112dc) :=
      fun within => outside (Or.inr (Or.inr within))
    rw [bootIfwiXorOffset, Mapping.load8_store32_ne _ _ (by omega)]
    exact umip offset inside outside
  · exact xorUpdate_sameOutside ptr

/-- The last version is what an update leaves. -/
theorem mem_writtenVersions (data : List Byte) (ptr : Partition) :
    xorUpdate (mergeImage ptr data) ∈ writtenVersions data ptr := by
  rw [writtenVersions, memcpy_tokens_eq_mergeImage]
  simp [xorVersions]

/-- Apart from the checksums every byte is that of the partition or that of the image, the one of
the image also in the token area. -/
theorem writtenVersions_load8 {data : List Byte} {ptr version : Partition}
    (member : version ∈ writtenVersions data ptr) {offset : Nat} (inside : offset < bootIfwiSize)
    (checksum : ¬ ChecksumByte offset) :
    version.load8 offset = ptr.load8 offset ∨
      offset < data.length ∧ version.load8 offset = data.getD offset 0#8 := by
  rw [writtenVersions, memcpy_tokens_eq_mergeImage, List.mem_cons, List.mem_cons] at member
  rcases member with rfl | rfl | member
  · exact Or.inl rfl
  · rw [Mapping.load8_memcpy _ _ _ inside, ifwiOffset]
    split
    next within => exact Or.inr ⟨by omega, by rw [Nat.sub_zero]⟩
    next => exact Or.inl rfl
  · rw [xorVersions_sameOutside _ version member offset inside checksum,
      mergeImage_load8 _ _ inside]
    split
    next within => exact Or.inr ⟨within.2, rfl⟩
    next => exact Or.inl rfl

/-! ## Where a run can be cut -/

/-- The log of an update that has written the first partitions. -/
def writtenLog (count : Nat) : List (Use Resource) :=
  .acquire .tokenData :: ((List.finRange 2).take count).flatMap writtenUses

/-- The log of an update that returns 0. -/
def completeLog : List (Use Resource) :=
  writtenLog 2 ++ [.release .tokenData]

/-- The logs of an update that fails at a partition. -/
def failedLogs (index : Fin 2) : List (List (Use Resource)) :=
  [writtenLog index ++ [.release .tokenData],
    writtenLog index ++ [.acquire (.bootFd index), .release .tokenData, .release (.bootFd index)]]

/-- What the log of an update can be. -/
def updateLogs : List (List (Use Resource)) :=
  [] :: (List.finRange 2).flatMap failedLogs ++ [completeLog]

/-- Every run has one of these logs. -/
theorem updateIfwiFileScuEmmc_log (kernel : Kernel) (image : Image) (device : Device) :
    ∃ log ∈ updateLogs,
      (updateIfwiFileScuEmmc kernel image device).2.uses = device.uses ++ log ∧
        ((updateIfwiFileScuEmmc kernel image device).1 = 0 → log = completeLog) := by
  simp only [updateIfwiFileScuEmmc, writeUmipEmmc, true_and, if_true]
  cases kernel.malloc device.calls.length with
  | false => exact ⟨[], by decide, by simp [Call.use], fun failed => by cases failed⟩
  | true =>
      rw [if_neg (by decide)]
      have fits : (if bootIfwiSize < image.size then bootIfwiSize else image.size) ≤
          bootIfwiSize := by
        split <;> omega
      have first := writeBoot_cases kernel image.data fits 0
        (rfl : (⟨-1, false, []⟩ : Locals).bootFd = -1) (device.call (.malloc true))
      generalize writeBoot kernel ifwiOffset (some image.data) _ 0 _ _ = result at first ⊢
      cases first with
      | unopened _ uses | unmapped _ uses | writable _ uses =>
          simp only [Device.uses_call, List.append_assoc] at uses
          exact ⟨_, by decide, uses, fun failed => by cases failed⟩
      | @written locals device₁ closed _ _ uses =>
          have second := writeBoot_cases kernel image.data fits 1 closed device₁
          dsimp only
          generalize writeBoot kernel ifwiOffset (some image.data) _ 1 _ _ = result at second ⊢
          cases second with
          | unopened _ uses₁ | unmapped _ uses₁ | writable _ uses₁ =>
              simp only [uses, Device.uses_call, List.append_assoc] at uses₁
              exact ⟨_, by decide, uses₁, fun failed => by cases failed⟩
          | @written _ device₂ _ _ _ uses₁ =>
              simp only [uses, Device.uses_call, List.append_assoc] at uses₁
              have freed := Device.uses_call device₂ .free
              simp only [uses₁, List.append_assoc] at freed
              exact ⟨_, by decide, freed, fun _ => rfl⟩

/-- A partition is not mapped before the one before it is closed. -/
theorem closed_of_mapped : ∀ log ∈ updateLogs, ∀ done ∈ log.inits,
    .acquire (.mapping 1) ∈ done → .acquire (.mapping 0) ∈ done ∧ .release (.bootFd 0) ∈ done := by
  decide

/-- What the first calls of an update leave in a partition if the power is lost. What was written
through a mapping is safe when the partition is closed. -/
def LeftBehind (device : Device) (image : Image) (done : List (Use Resource)) (index : Fin 2)
    (content : Partition) : Prop :=
  if .acquire (.mapping index) ∉ done then content = device.boot index
  else if .release (.bootFd index) ∈ done then content = updated device image index
  else content.Torn (writtenVersions (image.data.take bootIfwiSize) (device.boot index))

/-- The power is lost somewhere in an update that would have gone on as the kernel answers. -/
def Cut (kernel : Kernel) (image : Image) (device : Device) (boot : Fin 2 → Partition) : Prop :=
  ∃ done rest, (updateIfwiFileScuEmmc kernel image device).2.uses = device.uses ++ (done ++ rest) ∧
    ∀ index, LeftBehind device image done index (boot index)

variable {kernel : Kernel} {image : Image} {device : Device} {boot : Fin 2 → Partition}

/-- Each byte of what is left was written at some time. -/
theorem LeftBehind.torn {done : List (Use Resource)} {index : Fin 2} {content : Partition}
    (left : LeftBehind device image done index content) :
    content.Torn (writtenVersions (image.data.take bootIfwiSize) (device.boot index)) := by
  unfold LeftBehind at left
  split at left
  · rw [left]
    exact Mapping.torn_of_mem List.mem_cons_self
  · split at left
    · rw [left]
      exact Mapping.torn_of_mem (mem_writtenVersions _ _)
    · exact left

/-- Both partitions after a loss of power. -/
theorem Cut.torn (cut : Cut kernel image device boot) (index : Fin 2) :
    (boot index).Torn (writtenVersions (image.data.take bootIfwiSize) (device.boot index)) := by
  obtain ⟨_, _, _, left⟩ := cut
  exact (left index).torn

/-- The image has been copied and the tokens are not yet put back. -/
theorem cut_copied (succeeds : kernel.Succeeds) (image : Image) (device : Device) (index : Fin 2) :
    ∃ boot, Cut kernel image device boot ∧
      boot index = (device.boot index).memcpy ifwiOffset (image.data.take bootIfwiSize) := by
  obtain ⟨log, -, uses, complete⟩ := updateIfwiFileScuEmmc_log kernel image device
  obtain rfl := complete (updateIfwiFileScuEmmc_succeeds succeeds image device).1
  have copied (index : Fin 2) :
      ((device.boot index).memcpy ifwiOffset (image.data.take bootIfwiSize)).Torn
        (writtenVersions (image.data.take bootIfwiSize) (device.boot index)) :=
    Mapping.torn_of_mem (List.mem_cons_of_mem _ List.mem_cons_self)
  match index with
  | 0 =>
      refine ⟨Function.update device.boot 0 _, ⟨completeLog.take 3, completeLog.drop 3, ?_, ?_⟩,
        Function.update_self ..⟩
      · rw [uses, List.take_append_drop]
      · intro other
        match other with
        | 0 =>
            rw [LeftBehind, if_neg (by decide), if_neg (by decide), Function.update_self]
            exact copied 0
        | 1 =>
            rw [LeftBehind, if_pos (by decide)]
            exact Function.update_of_ne (by decide) ..
  | 1 =>
      refine ⟨Function.update (updated device image) 1 _,
        ⟨completeLog.take 8, completeLog.drop 8, ?_, ?_⟩, Function.update_self ..⟩
      · rw [uses, List.take_append_drop]
      · intro other
        match other with
        | 0 =>
            rw [LeftBehind, if_neg (by decide), if_pos (by decide)]
            exact Function.update_of_ne (by decide) ..
        | 1 =>
            rw [LeftBehind, if_neg (by decide), if_neg (by decide), Function.update_self]
            exact copied 1

/-- Whenever the power is lost, one of the partitions is as it was or updated, and every byte of
both but the checksums is as it was or that of the image. -/
theorem cut_guarded (cut : Cut kernel image device boot) :
    (∃ spared, boot spared = device.boot spared ∨
      Completed (device.boot spared) (boot spared) image) ∧
    ∀ index, ∀ offset < 0x400000, ¬ ChecksumByte offset →
      (boot index).load8 offset = (device.boot index).load8 offset ∨
        offset < min image.size 0x400000 ∧
          (boot index).load8 offset = image.data.getD offset 0#8 := by
  constructor
  · obtain ⟨done, rest, uses, left⟩ := cut
    obtain ⟨log, listed, logged, -⟩ := updateIfwiFileScuEmmc_log kernel image device
    obtain rfl : log = done ++ rest := List.append_cancel_left (logged.symm.trans uses)
    by_cases mapped : .acquire (.mapping 1) ∈ done
    · obtain ⟨first, closed⟩ := closed_of_mapped _ listed done
        ((List.mem_inits _ _).mpr (List.prefix_append done rest)) mapped
      have content := left 0
      rw [LeftBehind, if_neg (not_not.mpr first), if_pos closed] at content
      refine ⟨0, Or.inr ?_⟩
      rw [content]
      exact completed_xorUpdate _ _
    · have content := left 1
      rw [LeftBehind, if_pos mapped] at content
      exact ⟨1, Or.inl content⟩
  · intro index offset inside checksum
    obtain ⟨version, member, byte⟩ := cut.torn index offset inside
    have length : (image.data.take bootIfwiSize).length = min image.size 0x400000 := by
      rw [List.length_take, image.readable, Nat.min_comm, bootIfwiSize]
    rw [byte]
    rcases writtenVersions_load8 member inside checksum with kept | ⟨within, same⟩
    · exact Or.inl kept
    · have below : offset < bootIfwiSize := inside
      exact Or.inr ⟨length ▸ within, same.trans (by simp [below])⟩

/-- An image without the device's tokens. -/
def Image.foreign : Image :=
  ⟨List.replicate 0x6C00 0xAA#8, 0x6C00, List.length_replicate, by decide⟩

theorem getD_foreign {offset : Nat} (inside : offset < 0x6C00) :
    Image.foreign.data.getD offset 0#8 = 0xAA#8 :=
  List.getD_replicate _ inside

/-- For example if the power is lost when the image has been copied to the second partition and the
tokens are not yet put back. -/
theorem cut_guarded_copied : ∃ boot, Cut .reliable .foreign .blank boot ∧
    (boot 1).load8 0x4000 = 0xAA#8 ∧
    (∃ spared, boot spared = Device.blank.boot spared ∨
      Completed (Device.blank.boot spared) (boot spared) .foreign) ∧
    ∀ index, ∀ offset < 0x400000, ¬ ChecksumByte offset →
      (boot index).load8 offset = (Device.blank.boot index).load8 offset ∨
        offset < min Image.foreign.size 0x400000 ∧
          (boot index).load8 offset = Image.foreign.data.getD offset 0#8 := by
  obtain ⟨boot, cut, copied⟩ := cut_copied Kernel.reliable_succeeds .foreign .blank 1
  refine ⟨boot, cut, ?_, cut_guarded cut⟩
  have whole : Image.foreign.data.take bootIfwiSize = Image.foreign.data :=
    List.take_of_length_le (by rw [Image.foreign.readable]; decide)
  have reaches : ifwiOffset ≤ 0x4000 ∧ 0x4000 < ifwiOffset + Image.foreign.data.length := by
    rw [Image.foreign.readable]
    decide
  rw [copied, whole, Mapping.load8_memcpy _ _ _ (by decide), if_pos reaches]
  exact getD_foreign (by decide)

/-! ## Flashing after the power was lost -/

/-- The image holds the tokens of the partition, as far as it reaches. -/
def SparesTokens (image : Image) (partition : Partition) : Prop :=
  ∀ offset, TokenByte offset → offset < image.size →
    image.data.getD offset 0#8 = partition.load8 offset

/-- Then a cut changes only what a later flash overwrites. -/
theorem SparesTokens.sameOutside {partition : Partition} (spares : SparesTokens image partition) :
    ∀ version ∈ writtenVersions (image.data.take bootIfwiSize) partition,
      SameOutside (Reached (min image.size 0x400000)) version partition := by
  intro version member offset inside outside
  obtain ⟨checksum, reached⟩ := not_or.mp outside
  rcases writtenVersions_load8 member inside checksum with kept | ⟨within, same⟩
  · exact kept
  · rw [List.length_take, image.readable, Nat.min_comm, bootIfwiSize] at within
    have token : TokenByte offset := by
      by_contra data
      exact reached ⟨within, data⟩
    rw [same, ← spares offset token (by omega)]
    simp [inside]

/-- A flash with an image at least as long makes up for what was lost. -/
def Recovers (image : Image) (device : Device) (boot : Fin 2 → Partition) : Prop :=
  ∀ kernel last calls after, min image.size 0x400000 ≤ last.size →
    updateIfwiFileScuEmmc kernel last ⟨boot, calls⟩ = (0, after) →
      after.boot = updated device last

/-- With the tokens in the image nothing of a cut is left. -/
theorem Cut.recovers (cut : Cut kernel image device boot)
    (spares : ∀ index, SparesTokens image (device.boot index)) : Recovers image device boot := by
  intro kernel last calls after covers run
  refine (boot_of_update run).trans (funext fun index => updated_congr ?_)
  exact ((cut.torn index).sameOutside (spares index).sameOutside).mono (reached_mono covers)

/-- A later flash with an image at least as long makes up for every loss of power in an update
exactly if its image holds the tokens of both partitions. -/
theorem cut_recovers_iff (succeeds : kernel.Succeeds) (image : Image) (device : Device) :
    (∀ boot, Cut kernel image device boot → Recovers image device boot) ↔
      ∀ index, SparesTokens image (device.boot index) := by
  constructor
  · intro recovers index offset token within
    obtain ⟨boot, cut, copied⟩ := cut_copied succeeds image device index
    obtain ⟨returned, written⟩ :=
      updateIfwiFileScuEmmc_succeeds Kernel.reliable_succeeds image ⟨boot, []⟩
    have again := recovers boot cut .reliable image [] _ (Nat.min_le_left _ _)
      (Prod.ext returned rfl)
    -- The second flash keeps the token that the cut has left.
    have kept := (completed_xorUpdate (boot index) image).tokens offset token
    have own := (completed_xorUpdate (device.boot index) image).tokens offset token
    have same := congrArg (Mapping.load8 · offset)
      ((written index).symm.trans (congrFun again index))
    have inside : offset < bootIfwiSize := Nat.lt_trans token.2 (by decide)
    have byte : (boot index).load8 offset = image.data.getD offset 0#8 := by
      rw [copied, Mapping.load8_memcpy _ _ _ inside, ifwiOffset, if_pos, Nat.sub_zero]
      · simp [inside]
      · rw [List.length_take, image.readable]
        omega
    rw [← byte, ← kept, ← own]
    exact same
  · exact fun spares boot cut => cut.recovers spares

theorem cut_recovers_foreign :
    ∃ boot, Cut .reliable .foreign .blank boot ∧ ¬ Recovers .foreign .blank boot := by
  have differs : ¬ ∀ index, SparesTokens .foreign (Device.blank.boot index) := by
    intro spares
    have token : TokenByte 0x4000 := by decide
    have byte := spares 0 0x4000 token (by decide)
    rw [Device.blank, Mapping.load8_ofFn _ (by decide)] at byte
    exact absurd ((getD_foreign (by decide)).symm.trans byte) (by decide)
  have lost := mt (cut_recovers_iff Kernel.reliable_succeeds .foreign .blank).mp differs
  push Not at lost
  exact lost

/-- A call of `flash_ifwi_scu_emmc` that returns, or one whose update is cut off although its image
holds the tokens. -/
inductive Attempted (attempt : Attempt) (device : Device) : Device → Prop where
  | returned {ret after} :
      flashIfwiScuEmmc attempt.kernel attempt.node attempt.image device = .ok (ret, after) →
      Attempted attempt device after
  | cut {boot calls} : ¬ Refused attempt.image attempt.node →
      Cut attempt.kernel attempt.image device boot →
      (∀ index, SparesTokens attempt.image (device.boot index)) →
      Attempted attempt device ⟨boot, calls⟩

/-- One after the other. -/
inductive AttemptedAll : List Attempt → Device → Device → Prop where
  | nil {start} : AttemptedAll [] start start
  | cons {attempt attempts start next after} : Attempted attempt start next →
      AttemptedAll attempts next after → AttemptedAll (attempt :: attempts) start after

/-- What one of them can change. -/
theorem Attempted.sameOutside {attempt : Attempt} {after : Device}
    (attempted : Attempted attempt device after) (index : Fin 2) :
    SameOutside (Reached (min attempt.image.size 0x400000)) (after.boot index)
      (device.boot index) := by
  cases attempted with
  | cut _ cut spares => exact (cut.torn index).sameOutside (spares index).sameOutside
  | returned run =>
      by_cases refused : Refused attempt.image attempt.node
      · rw [flashIfwiScuEmmc_refused refused] at run
        cases run
        exact .refl _ _
      · rw [flashIfwiScuEmmc_passes refused] at run
        cases run
        rcases updateIfwiFileScuEmmc_boot attempt.kernel attempt.image device index with same | same
        · rw [same]
          exact .refl _ _
        · rw [same]
          exact updated_sameOutside _ _

/-- What any number of them can change. -/
theorem AttemptedAll.sameOutside {attempts : List Attempt} {after : Device} {size : Nat}
    (covered : ∀ attempt ∈ attempts, min attempt.image.size 0x400000 ≤ size)
    (attempted : AttemptedAll attempts device after) (index : Fin 2) :
    SameOutside (Reached size) (after.boot index) (device.boot index) := by
  induction attempted with
  | nil => exact .refl _ _
  | cons first _ ih =>
      have bound := covered _ List.mem_cons_self
      refine (ih fun attempt member => covered attempt (List.mem_cons_of_mem _ member)).trans ?_
      exact (first.sameOutside index).mono (reached_mono bound)

/-- A device that holds tokens. -/
def Device.provisioned : Device := ⟨fun _ => Mapping.ofFn fun _ => 0xAA#8, []⟩

/-- An image with these tokens and one header, whose versions are 0. -/
def Image.own : Image where
  data := fipPattern.toBytes ++
    (List.replicate 0x3FFC 0#8 ++ List.replicate 0x2C00 0xAA#8)
  size := 0x6C00
  readable := by
    rw [List.length_append, List.length_append, List.length_replicate, List.length_replicate,
      Word.length_toBytes]
  size_lt := by decide

/-- What the image holds behind the header's first word. -/
theorem getD_own {offset : Nat} (behind : 4 ≤ offset) (inside : offset < 0x6C00) :
    Image.own.data.getD offset 0#8 = if offset < 0x4000 then 0#8 else 0xAA#8 := by
  rw [Image.own, List.getD_append_right _ _ _ _ behind]
  split
  next zeros =>
    rw [List.getD_append _ _ _ _ (by rw [List.length_replicate, Word.length_toBytes]; omega)]
    exact List.getD_replicate _ (by rw [Word.length_toBytes]; omega)
  next tokens =>
    rw [List.getD_append_right _ _ _ _ (by rw [List.length_replicate, Word.length_toBytes]; omega)]
    refine List.getD_replicate _ ?_
    rw [List.length_replicate, Word.length_toBytes]
    omega

/-- It has just the one header. -/
theorem fipHeaders_own : fipHeaders Image.own.data = [0] := by
  have magic : wordOf Image.own.data 0 = fipPattern := wordOf_toBytes [] _ fipPattern rfl
  have header : isFipHeader Image.own.data (4 * 0) = true := by
    refine isFipHeader_iff.mpr ⟨?_, magic⟩
    rw [Image.own.readable]
    decide
  have none : headersFrom Image.own.data 1 = [] := by
    simp only [headersFrom, List.filter_eq_nil_iff, List.mem_map, List.mem_range'_1, isFipHeader_iff]
    rintro _ ⟨index, ⟨low, _⟩, rfl⟩ ⟨inside, word⟩
    rw [Image.own.readable] at inside
    -- The first byte of a header stands nowhere else.
    have first : Image.own.data.getD (4 * index) 0#8 = 0x24#8 := by
      have byte : (wordOf Image.own.data (4 * index)).byte 0 = fipPattern.byte 0 :=
        congrArg (Word.byte · 0) word
      rw [wordOf, Word.byte_ofBytes_zero] at byte
      exact byte.trans (by decide)
    have size : Image.own.size = 0x6C00 := rfl
    rw [getD_own (by omega) (by omega)] at first
    split at first <;> exact absurd first (by decide)
  rw [fipHeaders, headersFrom_cons header, none]

/-- The gate lets it through over a node that holds no number. -/
theorem own_passes : ¬ Refused .own .notANumber := by
  refine notANumber_passes_of (.inr ((hasFipHeader_iff .own).mpr ?_)) ?_
  · rw [fipHeaders_own]
    exact List.cons_ne_nil _ _
  · rw [imageVersions, fipHeaders_own]
    decide +kernel

/-- However many flashes failed or were cut off before, each at any place, one that returns 0 leaves
the partitions that it would have left as the only one. -/
theorem attempted_boot {attempts : List Attempt} {before after : Device} {last : Attempt}
    (covered : ∀ attempt ∈ attempts, min attempt.image.size 0x400000 ≤ last.image.size)
    (attempted : AttemptedAll attempts device before)
    (succeeds : flashIfwiScuEmmc last.kernel last.node last.image before = .ok (0, after)) :
    after.boot = updated device last.image ∧ ∀ index, ChecksumsHold (after.boot index) := by
  have boot := boot_of_update (update_of_flash succeeds)
  have same : updated before last.image = updated device last.image :=
    funext fun index => updated_congr (attempted.sameOutside covered index)
  refine ⟨boot.trans same, fun index => ?_⟩
  rw [boot]
  exact xorUpdate_checksumsHold _

/-- For example if the power is lost when the image has been copied to the second partition and the
checksums are not yet updated. -/
theorem attempted_boot_copied : ∃ boot after,
    AttemptedAll [⟨.reliable, .notANumber, .own⟩] .provisioned ⟨boot, []⟩ ∧
      boot 1 = (Device.provisioned.boot 1).memcpy ifwiOffset (Image.own.data.take bootIfwiSize) ∧
      flashIfwiScuEmmc .reliable .notANumber .own ⟨boot, []⟩ = .ok (0, after) ∧
      after.boot = updated .provisioned .own ∧ ∀ index, ChecksumsHold (after.boot index) := by
  obtain ⟨boot, cut, copied⟩ := cut_copied Kernel.reliable_succeeds .own .provisioned 1
  have spares (index : Fin 2) : SparesTokens .own (Device.provisioned.boot index) := by
    intro offset token within
    rw [getD_own (Nat.le_trans (by decide) token.1) within, if_neg (Nat.not_lt.mpr token.1)]
    have inside : Image.own.size < bootIfwiSize := by decide
    rw [Device.provisioned, Mapping.load8_ofFn _ (Nat.lt_trans within inside)]
  have attempted : AttemptedAll [⟨.reliable, .notANumber, .own⟩] .provisioned ⟨boot, []⟩ :=
    .cons (.cut own_passes cut spares) .nil
  have covered : ∀ attempt ∈ [(⟨.reliable, .notANumber, .own⟩ : Attempt)],
      min attempt.image.size 0x400000 ≤ Image.own.size := by
    intro attempt member
    rw [List.mem_singleton.mp member]
    exact Nat.min_le_left _ _
  obtain ⟨returned, -⟩ :=
    updateIfwiFileScuEmmc_succeeds Kernel.reliable_succeeds .own ⟨boot, []⟩
  have flashed := flashIfwiScuEmmc_passes own_passes .reliable ⟨boot, []⟩
  rw [returned] at flashed
  exact ⟨_, _, attempted, copied, flashed,
    @attempted_boot _ _ _ _ ⟨.reliable, .notANumber, .own⟩ covered attempted flashed⟩

end T00F.Recovery
