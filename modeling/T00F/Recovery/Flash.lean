import T00F.Recovery.DeviceVersion

/-!
# The version gate in front of a flash

`flash_ifwi_scu_emmc` writes only after `check_ifwi_file_scu_emmc` has compared
the IFWI major versions of the image and of the device. Both version readers can
succeed without having read anything: an image too small for a FIP header and a
node with an unreadable or missing token count as version 0. `flash_guarded_iff`
gives the exact inputs for which the gate does its work.
-/

namespace T00F.Recovery

open Systems

/-- `check_ifwi_file_scu_emmc`. The local `dev_fw_rev` is only read after
`get_current_fw_rev` has filled it. -/
def checkIfwiFileScuEmmc (node : NodeRead) (image : Image) : Except Fault Int :=
  match getImageFwRev image.data with
  | .error fault => .error fault
  | .ok (ret, imgFwRev) =>
      if ret ≠ 0 then .ok (-1)
      else
        let (ret, devFwRev) := getCurrentFwRev node .zero
        if ret ≠ 0 then .ok (-1)
        else if imgFwRev.ifwi.major ≠ devFwRev.ifwi.major then .ok (-1)
        else .ok 1

/-- `flash_ifwi_scu_emmc` -/
def flashIfwiScuEmmc (kernel : Kernel) (node : NodeRead) (image : Image) (device : Device) :
    Except Fault (Int × Device) :=
  match checkIfwiFileScuEmmc node image with
  | .error fault => .error fault
  | .ok ret =>
      if 0 < ret then .ok (updateIfwiFileScuEmmc kernel image device) else .ok (ret, device)

/-! ## What the gate should establish -/

/-- A complete FIP header lies at a 4-byte-aligned offset of the image. -/
def HasFipHeader (image : Image) : Prop :=
  ∃ offset, 4 ∣ offset ∧ offset + 352 ≤ image.size ∧ wordOf image.data offset = fipPattern

/-- The node was read and its tokens 0 to 19 are numbers. -/
def MajorParsed (node : NodeRead) : Prop :=
  ∃ bytes, node = .content bytes ∧ ∀ index < 20, ∃ text value,
    (nodeTokens bytes)[index]? = some text ∧ sscanfHex text = .matched value

/-- The IFWI major version that the image reports is the one that tokens 18 and
19 of the node encode. -/
def MajorsAgree (node : NodeRead) (image : Image) : Prop :=
  ∃ bytes versions lowText highText low high,
    node = .content bytes ∧ getImageFwRev image.data = .ok (0, versions) ∧
    (nodeTokens bytes)[18]? = some lowText ∧ sscanfHex lowText = .matched low ∧
    (nodeTokens bytes)[19]? = some highText ∧ sscanfHex highText = .matched high ∧
    versions.ifwi.major = ((high <<< 8) ||| low).setWidth 16

/-- The flash left the partitions alone, or everything was in place for it. -/
def FlashGuarded (kernel : Kernel) (node : NodeRead) (image : Image) (device : Device) : Prop :=
  ∀ ret device', flashIfwiScuEmmc kernel node image device = .ok (ret, device') →
    device'.boot ≠ device.boot → HasFipHeader image ∧ MajorParsed node ∧ MajorsAgree node image

/-! ## When the gate refuses -/

/-- The major version that the node counts for: missing or unparsed tokens are 0. -/
def nodeMajor (bytes : List Byte) : HalfWord :=
  let values := parsedTokens (nodeTokens bytes)
  ((values.getD 19 0#32 <<< 8) ||| values.getD 18 0#32).setWidth 16

/-- The inputs that the gate turns down. -/
inductive Refused (image : Image) : NodeRead → Prop where
  /-- The image has room for a header but holds none. -/
  | noHeader {node} : 352 ≤ image.size → ¬ HasFipHeader image → Refused image node
  | openFailed : Refused image .openFailed
  | readFailed : Refused image .readFailed
  /-- The first token that is no number is blank. -/
  | blankToken {bytes} : StopsAtBlank (nodeTokens bytes) 32 → Refused image (.content bytes)
  /-- The majors differ, with 0 for what is missing on either side. -/
  | otherMajor {bytes} : (imageVersions image.data).ifwi.major ≠ nodeMajor bytes →
      Refused image (.content bytes)

/-- An image has a header exactly when the scan lists one. -/
theorem hasFipHeader_iff (image : Image) :
    HasFipHeader image ↔ fipHeaders image.data ≠ [] := by
  constructor
  · rintro ⟨offset, header⟩
    rw [← image.readable] at header
    exact List.ne_nil_of_mem (mem_fipHeaders.mpr header)
  · intro some
    obtain ⟨offset, header⟩ := List.exists_mem_of_ne_nil _ some
    exact ⟨offset, image.readable ▸ mem_fipHeaders.mp header⟩

/-- An image long enough and without a header is an error. -/
theorem getImageFwRev_noHeader {image : Image} (room : 352 ≤ image.size)
    (noHeader : ¬ HasFipHeader image) : getImageFwRev image.data = .ok (-1, .zero) := by
  rw [getImageFwRev_eq, image.readable]
  exact if_pos ⟨room, not_not.mp (mt (hasFipHeader_iff image).mpr noHeader)⟩

/-- An image without room for a header passes like one that holds headers. -/
theorem getImageFwRev_passes {image : Image} (passes : ¬ (352 ≤ image.size ∧ ¬ HasFipHeader image)) :
    getImageFwRev image.data = .ok (0, imageVersions image.data) := by
  rw [getImageFwRev_eq, image.readable]
  refine if_neg fun none => passes ⟨none.1, fun header => ?_⟩
  exact (hasFipHeader_iff image).mp header none.2

/-- A node whose reading does not stop at a blank token passes, with zeros for
what it does not provide. -/
theorem getCurrentFwRev_passes {bytes : List Byte}
    (noBlank : ¬ StopsAtBlank (nodeTokens bytes) 32) (v : FirmwareVersions) :
    (getCurrentFwRev (.content bytes) v).1 = 0 ∧
      (getCurrentFwRev (.content bytes) v).2.ifwi.major = nodeMajor bytes := by
  obtain ⟨zero, numbers⟩ := getCurrentFwRev_numbers noBlank v
  refine ⟨zero, ?_⟩
  have ninth := congrArg (·[9]?) numbers
  exact Option.some.inj ninth

/-- The check fails on a refused image. -/
theorem checkIfwiFileScuEmmc_refused {node : NodeRead} {image : Image}
    (refused : Refused image node) : checkIfwiFileScuEmmc node image = .ok (-1) := by
  by_cases noHeader : 352 ≤ image.size ∧ ¬ HasFipHeader image
  · simp [checkIfwiFileScuEmmc, getImageFwRev_noHeader noHeader.1 noHeader.2]
  · rw [checkIfwiFileScuEmmc, getImageFwRev_passes noHeader]
    cases refused with
    | noHeader room none => exact absurd ⟨room, none⟩ noHeader
    | openFailed => simp [getCurrentFwRev, readFwRevision]
    | readFailed => simp [getCurrentFwRev, readFwRevision]
    | blankToken blank => simp [getCurrentFwRev_blank blank]
    | @otherMajor bytes differ =>
        by_cases blank : StopsAtBlank (nodeTokens bytes) 32
        · simp [getCurrentFwRev_blank blank]
        · have current := getCurrentFwRev_passes blank .zero
          simp [current, differ]

/-- The check passes on an image that is not refused. -/
theorem checkIfwiFileScuEmmc_passes {node : NodeRead} {image : Image}
    (passes : ¬ Refused image node) : checkIfwiFileScuEmmc node image = .ok 1 := by
  have imageOk : ¬ (352 ≤ image.size ∧ ¬ HasFipHeader image) :=
    fun noHeader => passes (.noHeader noHeader.1 noHeader.2)
  rw [checkIfwiFileScuEmmc, getImageFwRev_passes imageOk]
  cases node with
  | openFailed => exact absurd .openFailed passes
  | readFailed => exact absurd .readFailed passes
  | content bytes =>
      have current := getCurrentFwRev_passes (fun blank => passes (.blankToken blank)) .zero
      have majors : (imageVersions image.data).ifwi.major = nodeMajor bytes :=
        not_not.mp fun differ => passes (.otherMajor differ)
      simp [current, majors]

/-- Flashing a refused image leaves the device as it was. -/
theorem flashIfwiScuEmmc_refused {node : NodeRead} {image : Image} (refused : Refused image node)
    (kernel : Kernel) (device : Device) :
    flashIfwiScuEmmc kernel node image device = .ok (-1, device) := by
  simp [flashIfwiScuEmmc, checkIfwiFileScuEmmc_refused refused]

/-- Flashing an image that is not refused is the update of both partitions. -/
theorem flashIfwiScuEmmc_passes {node : NodeRead} {image : Image} (passes : ¬ Refused image node)
    (kernel : Kernel) (device : Device) : flashIfwiScuEmmc kernel node image device =
      .ok ((updateIfwiFileScuEmmc kernel image device).1,
        (updateIfwiFileScuEmmc kernel image device).2) := by
  simp [flashIfwiScuEmmc, checkIfwiFileScuEmmc_passes passes]

/-- If the node's major tokens are numbers, the node counts for what they encode. -/
theorem majorsAgree_of_parsed {node : NodeRead} {image : Image} (parsed : MajorParsed node)
    (header : HasFipHeader image) (passes : ¬ Refused image node) : MajorsAgree node image := by
  obtain ⟨bytes, rfl, all⟩ := parsed
  have enough := le_length_parsedTokens_iff.mpr all
  obtain ⟨lowText, lowPresent, lowValue⟩ := parsedTokens_getElem?
    (List.getElem?_eq_getElem (show 18 < (parsedTokens (nodeTokens bytes)).length by omega))
  obtain ⟨highText, highPresent, highValue⟩ := parsedTokens_getElem?
    (List.getElem?_eq_getElem (show 19 < (parsedTokens (nodeTokens bytes)).length by omega))
  have majors : (imageVersions image.data).ifwi.major = nodeMajor bytes :=
    not_not.mp fun differ => passes (.otherMajor differ)
  refine ⟨bytes, imageVersions image.data, lowText, highText, _, _, rfl,
    getImageFwRev_passes fun none => none.2 header, lowPresent, lowValue, highPresent, highValue, ?_⟩
  rw [majors, nodeMajor]
  simp [List.getElem?_eq_getElem (show 18 < (parsedTokens (nodeTokens bytes)).length by omega),
    List.getElem?_eq_getElem (show 19 < (parsedTokens (nodeTokens bytes)).length by omega)]

/-! ## The flash changes what the gate lets through -/

/-- Two partitions of zeros but for a single set bit, which no checksum covers. -/
def Device.unsealed : Device :=
  ⟨fun _ => Mapping.ofFn fun offset => if offset = 0 then 1#8 else 0#8, []⟩

theorem unsealed_checksums (index : Fin 2) : ¬ ChecksumsHold (Device.unsealed.boot index) := by
  intro holds
  have zeros : ∀ count, xorRange (fun _ => 0#8) count = 0#8 := by
    intro count
    induction count with
    | zero => rfl
    | succ count ih => rw [xorRange_succ, ih]; rfl
  have fold := xorRange_change (f := fun _ => 0#8)
    (g := (Device.unsealed.boot index).load8) (by omega : 0 < 0x10000)
    fun offset inside apart => by
      rw [Device.unsealed, Mapping.load8_ofFn _ (by unfold bootIfwiSize; omega), if_neg apart]
  rw [holds.umip, zeros, Device.unsealed,
    Mapping.load8_ofFn _ (by unfold bootIfwiSize; omega)] at fold
  revert fold
  decide

/-- Whatever the gate lets through rewrites stale checksums. -/
theorem flashIfwiScuEmmc_changes {node : NodeRead} {image : Image} (passes : ¬ Refused image node) :
    ∃ ret device', flashIfwiScuEmmc .reliable node image .unsealed = .ok (ret, device') ∧
      device'.boot ≠ Device.unsealed.boot := by
  refine ⟨_, _, flashIfwiScuEmmc_passes passes .reliable .unsealed, fun same => ?_⟩
  have written := (updateIfwiFileScuEmmc_succeeds Kernel.reliable_succeeds image .unsealed).2 0
  rw [same] at written
  exact unsealed_checksums 0 (written ▸ xorUpdate_checksumsHold _)

/-- For given image and node, every flash is guarded, whatever the calls answer
and the partitions hold, exactly if the image has a FIP header and the node's
tokens 0 to 19 are numbers, or the gate refuses them. -/
theorem flash_guarded_iff (node : NodeRead) (image : Image) :
    (∀ kernel device, FlashGuarded kernel node image device) ↔
      (HasFipHeader image ∧ MajorParsed node) ∨ Refused image node := by
  constructor
  · intro guarded
    by_cases passes : Refused image node
    · exact Or.inr passes
    · obtain ⟨ret, device', run, changed⟩ := flashIfwiScuEmmc_changes passes
      obtain ⟨header, parsed, _⟩ := guarded _ _ ret device' run changed
      exact Or.inl ⟨header, parsed⟩
  · intro condition kernel device ret device' run changed
    by_cases passes : Refused image node
    · cases (flashIfwiScuEmmc_refused passes kernel device).symm.trans run
      exact absurd rfl changed
    · obtain ⟨header, parsed⟩ := condition.resolve_right passes
      exact ⟨header, parsed, majorsAgree_of_parsed parsed header passes⟩

/-- A node whose first token is no number. -/
def NodeRead.notANumber : NodeRead := .content (['N', '/', 'A', '\n'].map ascii)

/-- It counts for major version 0. -/
theorem notANumber_passes_of {image : Image} (header : image.size < 352 ∨ HasFipHeader image)
    (major : (imageVersions image.data).ifwi.major = 0#16) : ¬ Refused image .notANumber := by
  intro refused
  cases refused with
  | noHeader room none => exact header.elim (Nat.not_lt.mpr room) none
  | blankToken blank =>
      obtain ⟨_, text, first, scanned⟩ := blank
      revert first
      rw [show (nodeTokens (['N', '/', 'A', '\n'].map ascii))[(parsedTokens (nodeTokens
        (['N', '/', 'A', '\n'].map ascii))).length]? = some (['N', '/', 'A', '\n'].map ascii) by decide]
      rintro ⟨rfl⟩
      exact absurd scanned (by decide)
  | otherMajor differ => exact differ (major.trans (by decide))

theorem notANumber_passes : ¬ Refused .oneByte .notANumber :=
  notANumber_passes_of (.inl (by decide)) (by decide)

/-- An image of one byte is written to both partitions over a node that holds no
number: both count as major version 0. -/
theorem flash_notANumber_unguarded : ¬ FlashGuarded .reliable .notANumber .oneByte .blank := by
  intro guarded
  have written := (updateIfwiFileScuEmmc_succeeds Kernel.reliable_succeeds .oneByte .blank).2 0
  have inside : 0 < bootIfwiSize := by unfold bootIfwiSize; omega
  have byte : ((updateIfwiFileScuEmmc .reliable .oneByte .blank).2.boot 0).load8 0 = 0xAA#8 := by
    rw [written, xorUpdate_load8 _ (by decide), mergeImage_load8 _ _ inside]
    rfl
  obtain ⟨⟨offset, _, bound, _⟩, _⟩ := guarded _ _
    (flashIfwiScuEmmc_passes notANumber_passes .reliable .blank) fun same => by
      rw [same, Device.blank, Mapping.load8_ofFn _ inside] at byte
      exact absurd byte (by decide)
  have small : Image.oneByte.size = 1 := rfl
  omega

end T00F.Recovery
