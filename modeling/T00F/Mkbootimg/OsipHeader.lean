import T00F.Mkbootimg.Unpack

/-!
# FixOsipHeader

The function of `make_recovery_patch` that sets the OS type of an image and computes
the checksum of its header anew, over 224 bytes where `pack.c` takes 56. For an image of
`pack_intel`, `fixOsipHeader_pack` says when both checksums hold.
-/

namespace T00F.Mkbootimg

open Systems

/-- `OSIP_CRC_OFFSET` -/
def osipCrcOffset : Nat := 7

/-- `OSIP_ATTRIBUTE_OFFSET` -/
def osipAttributeOffset : Nat := 52

/-- The values of `ostype` with which `main` calls `FixOsipHeader`. -/
inductive OsType where
  | boot
  | recovery
deriving DecidableEq, Repr

/-- The attribute of a type, to which the sign bit is added. -/
def OsType.attribute : OsType → Byte
  | .boot => 0x0#8
  | .recovery => 0xc#8

/-- The attribute byte of an image after its type is set. -/
def osipAttribute (data : List Byte) (ostype : OsType) : Byte :=
  let signAttr := data.getD osipAttributeOffset 0#8 &&& 0x01#8
  ostype.attribute + signAttr

/-- `crc = data[0] ^ data[1]`, then `for i in range(2,224): crc = crc ^ data[i]`. -/
def osipCrc (data : List Byte) : Byte :=
  (List.range' 2 222).foldl (fun crc index => crc ^^^ data.getD index 0#8)
    (data.getD 0 0#8 ^^^ data.getD 1 0#8)

/-- The image with its new type and a checksum of zero. -/
def clearedHeader (data : List Byte) (ostype : OsType) : List Byte :=
  let data := data.set osipAttributeOffset (osipAttribute data ostype)
  data.set osipCrcOffset 0#8

/-- `FixOsipHeader`. An image without these 224 bytes raises an `IndexError`. -/
def fixOsipHeader (data : List Byte) (ostype : OsType) : Option (List Byte) :=
  if data.length < 224 then none
  else
    let data := clearedHeader data ostype
    let crc := osipCrc data
    some (data.set osipCrcOffset crc)

/-! ## The two checksum rules -/

/-- The first bytes of an image fold to zero. -/
def FoldsToZero (data : List Byte) (count : Nat) : Prop :=
  xorRange (fun index => data.getD index 0#8) count = 0#8

/-- What the rules disagree about: the fold of the bytes behind those of `pack.c`. -/
def tailFold (data : List Byte) : Byte :=
  xorRange (fun index => data.getD (headerSize + index) 0#8) 168

/-- The fold over 224 bytes is that of the header xored with that of the bytes behind it. -/
theorem xorRange_tail (data : List Byte) : xorRange (fun index => data.getD index 0#8) 224 =
    xorRange (fun index => data.getD index 0#8) headerSize ^^^ tailFold data :=
  xorRange_add (fun index => data.getD index 0#8) headerSize 168

/-- With 224 bytes that fold to zero, the header does so exactly when the tail does. -/
theorem foldsToZero_iff {data : List Byte} (wide : FoldsToZero data 224) :
    FoldsToZero data headerSize ↔ tailFold data = 0#8 := by
  rw [FoldsToZero, xorRange_tail] at wide
  rw [FoldsToZero, BitVec.xor_eq_zero_iff.mp wide]

/-- With a header and a tail that fold to zero, all 224 bytes do. -/
theorem foldsToZero_of_tail {data : List Byte} (narrow : FoldsToZero data headerSize)
    (tail : tailFold data = 0#8) : FoldsToZero data 224 := by
  rw [FoldsToZero] at narrow
  rw [FoldsToZero, xorRange_tail, narrow, tail, BitVec.xor_self]

/-- The sum of `osip_crc` is the fold over 224 bytes. -/
theorem osipCrc_eq (data : List Byte) :
    osipCrc data = xorRange (fun index => data.getD index 0#8) 224 := by
  have front : xorRange (fun index => data.getD index 0#8) 2 =
      data.getD 0 0#8 ^^^ data.getD 1 0#8 := by
    rw [xorRange_succ, xorRange_succ, xorRange_zero, BitVec.zero_xor]
  rw [osipCrc, foldl_xor_range', ← front]
  exact (xorRange_add (fun index => data.getD index 0#8) 2 222).symm

section Fixed

variable {data : List Byte} (ostype : OsType)

@[simp] theorem length_clearedHeader :
    (clearedHeader data ostype).length = data.length := by
  simp [clearedHeader]

/-- Clearing touches only the type byte and the checksum byte. -/
theorem getD_clearedHeader {index : Nat} (notType : index ≠ osipAttributeOffset)
    (notCrc : index ≠ osipCrcOffset) :
    (clearedHeader data ostype).getD index 0#8 = data.getD index 0#8 := by
  rw [clearedHeader, getD_set_ne _ notCrc, getD_set_ne _ notType]

/-- The fix succeeds on 224 bytes or more, and stores the fold of the cleared header. -/
theorem fixOsipHeader_eq_some {fixed : List Byte} : fixOsipHeader data ostype = some fixed ↔
    224 ≤ data.length ∧ fixed = (clearedHeader data ostype).set osipCrcOffset
      (xorRange (fun index => (clearedHeader data ostype).getD index 0#8) 224) := by
  rw [fixOsipHeader, ← osipCrc_eq]
  split
  next short =>
    refine iff_of_false nofun ?_
    rintro ⟨room, _⟩
    omega
  next room => simp [Nat.le_of_not_lt room, eq_comm]

/-- The type byte lies inside the bytes that are checked. -/
theorem attributeOffset_lt (room : 224 ≤ data.length) : osipAttributeOffset < data.length :=
  Nat.lt_of_lt_of_le (by decide) room

/-- The checksum byte lies inside the bytes that are checked. -/
theorem crcOffset_lt (room : 224 ≤ data.length) : osipCrcOffset < data.length :=
  Nat.lt_of_lt_of_le (by decide) room

/-- The fixed image differs at the two bytes only. -/
theorem getD_fixOsipHeader {fixed : List Byte} (run : fixOsipHeader data ostype = some fixed)
    {index : Nat} (notType : index ≠ osipAttributeOffset) (notCrc : index ≠ osipCrcOffset) :
    fixed.getD index 0#8 = data.getD index 0#8 := by
  obtain ⟨_, rfl⟩ := (fixOsipHeader_eq_some ostype).mp run
  rw [getD_set_ne _ notCrc, getD_clearedHeader ostype notType notCrc]

/-- The fixed image meets the rule of `FixOsipHeader`. -/
theorem fixOsipHeader_foldsToZero {fixed : List Byte}
    (run : fixOsipHeader data ostype = some fixed) : FoldsToZero fixed 224 := by
  obtain ⟨room, rfl⟩ := (fixOsipHeader_eq_some ostype).mp run
  have inside := crcOffset_lt room
  refine xorRange_seal osipCrcOffset (by decide)
    (fun index _ other => getD_set_ne _ other _) ?_ ?_
  · rw [clearedHeader, getD_set_self (by rwa [List.length_set])]
  · rw [getD_set_self (by rwa [length_clearedHeader])]

/-- An image that has the type and meets the rule is left as it is. -/
theorem fixOsipHeader_self (room : 224 ≤ data.length) (wide : FoldsToZero data 224)
    (typed : data.getD osipAttributeOffset 0#8 = osipAttribute data ostype) :
    fixOsipHeader data ostype = some data := by
  have keep : data.set osipAttributeOffset (osipAttribute data ostype) = data := by
    rw [← typed, List.getD_eq_getElem _ _ (attributeOffset_lt room), List.set_getElem_self]
  have cleared : clearedHeader data ostype = data.set osipCrcOffset 0#8 := by
    rw [clearedHeader, keep]
  have inside := crcOffset_lt room
  have crc : xorRange (fun index => (data.set osipCrcOffset 0#8).getD index 0#8) 224 =
      data.getD osipCrcOffset 0#8 :=
    xorRange_unseal osipCrcOffset (by decide) (fun index _ other => getD_set_ne _ other _)
      (getD_set_self inside _) wide
  refine (fixOsipHeader_eq_some ostype).mpr ⟨room, ?_⟩
  rw [cleared, crc, List.set_set, List.getD_eq_getElem _ _ inside, List.set_getElem_self]

/-- The type is set, and with it the sign bit that a second run reads. -/
theorem getD_fixOsipHeader_attribute {fixed : List Byte}
    (run : fixOsipHeader data ostype = some fixed) :
    fixed.getD osipAttributeOffset 0#8 = osipAttribute data ostype := by
  obtain ⟨room, rfl⟩ := (fixOsipHeader_eq_some ostype).mp run
  rw [getD_set_ne _ (by decide), clearedHeader, getD_set_ne _ (by decide),
    getD_set_self (attributeOffset_lt room)]

/-- The signature bit survives one change of the type and the next. -/
theorem attribute_signed (next : OsType) (signAttr : Byte) :
    next.attribute + ((ostype.attribute + (signAttr &&& 0x01#8)) &&& 0x01#8) =
      next.attribute + (signAttr &&& 0x01#8) := by
  revert signAttr
  cases ostype <;> cases next <;> decide

/-- The attribute for a next type is the same before and after a fix. -/
theorem osipAttribute_fixed {fixed : List Byte} (run : fixOsipHeader data ostype = some fixed)
    (next : OsType) : osipAttribute fixed next = osipAttribute data next := by
  rw [osipAttribute, getD_fixOsipHeader_attribute ostype run]
  exact attribute_signed ostype next _

/-- The fix keeps the length. -/
theorem length_fixOsipHeader {fixed : List Byte} (run : fixOsipHeader data ostype = some fixed) :
    fixed.length = data.length := by
  obtain ⟨_, rfl⟩ := (fixOsipHeader_eq_some ostype).mp run
  rw [List.length_set, length_clearedHeader]

/-- Fixing twice is fixing once. -/
theorem fixOsipHeader_twice {fixed : List Byte} (run : fixOsipHeader data ostype = some fixed) :
    fixOsipHeader fixed ostype = some fixed := by
  have room : 224 ≤ fixed.length := by
    rw [length_fixOsipHeader ostype run]
    exact ((fixOsipHeader_eq_some ostype).mp run).1
  refine fixOsipHeader_self ostype room (fixOsipHeader_foldsToZero ostype run) ?_
  rw [getD_fixOsipHeader_attribute ostype run, osipAttribute_fixed ostype run ostype]

end Fixed

/-! ## Images of pack_intel -/

/-- What the calls of `fwrite` take reaches the output file. -/
structure PackIo.Stores (io : PackIo) : Prop where
  fwriteHeader : io.fwriteHeader.Keeps
  fwriteBzImage : ∀ call, (io.fwriteBzImage call).Keeps
  fwriteRamdisk : ∀ call, (io.fwriteRamdisk call).Keeps
  fwritePadding : io.fwritePadding.Keeps
  flush : io.flush = none

/-- Calls that all succeed store what `pack` hands them. -/
theorem PackIo.Succeeds.stores {io : PackIo} (succeeds : io.Succeeds) : io.Stores where
  fwriteHeader := Or.inl succeeds.fwriteHeader
  fwriteBzImage call := Or.inl (succeeds.fwriteBzImage call)
  fwriteRamdisk call := Or.inl (succeeds.fwriteRamdisk call)
  fwritePadding := Or.inl succeeds.fwritePadding
  flush := succeeds.flush

/-- A run that ends with 0 has written the whole header first. -/
theorem writeImage_starts {io : PackIo} (stores : io.Stores) {files : PackFiles}
    {file : Bootheader} {paddings : Word} {image : List Byte}
    (written : writeImage io files file paddings = .exit 0 image) : file.toBytes <+: image := by
  have copied : ∀ output : OutputStream, output.contents <+:
      (copyAll io.freadRamdisk io.fwriteRamdisk bufsiz 0 files.ramdisk
        (copyAll io.freadBzImage io.fwriteBzImage bufsiz 0 files.bzImage output)).contents := by
    intro output
    rw [contents_copyAll_keeps stores.fwriteRamdisk, contents_copyAll_keeps stores.fwriteBzImage]
    exact (List.prefix_append _ _).trans (List.prefix_append _ _)
  unfold writeImage at written
  rw [stores.flush] at written
  dsimp only [OutputStream.flush_none] at written
  split at written
  · cases written
  next complete =>
    have header : (OutputStream.empty.fwrite io.fwriteHeader file.toBytes).contents =
        file.toBytes := by
      apply OutputStream.contents_fwrite
      apply length_of_length_transfer
      rw [file.length_toBytes]
      exact Nat.le_of_not_lt complete
    have behind := copied (OutputStream.empty.fwrite io.fwriteHeader file.toBytes)
    rw [header] at behind
    split at written
    · cases written
    · split at written
      · cases written
      · split at written
        · split at written
          · cases written
          · split at written
            · cases written
            · cases written
              rw [OutputStream.contents_fwrite_keeps stores.fwritePadding]
              exact behind.trans (List.prefix_append _ _)
        · cases written
          exact behind

/-- The header that `main` of `pack.c` has put together before the checksum. -/
def mergedHeader (base : Bootheader) (cmdline : Bytes cmdlineSize) (files : PackFiles)
    (totalImageSize : Word) : Bootheader :=
  { base with
    cmdline := cmdline
    bzImageSize := BitVec.ofNat 32 files.bzImage.length
    initrdSize := BitVec.ofNat 32 files.ramdisk.length
    sectors := totalImageSize / BitVec.ofNat 32 sectorSize - 1#32 }

/-- Whatever calls fail, a run that ends with 0 has written a sealed header whose
padding is that of the base image. -/
theorem pack_exit_zero {io : PackIo} (stores : io.Stores) {files : PackFiles} {uninitialised : Word}
    {image : List Byte} (packed : pack io files uninitialised = .exit 0 image) :
    ∃ (room : sizeofBootheader ≤ files.origin.length) (hdr : Bootheader),
      hdr.toBytes <+: image ∧ hdr.headPadding = (files.base room).headPadding ∧
        FoldsToZero hdr.toBytes headerSize := by
  unfold pack at packed
  split at packed
  · cases packed
  · split at packed
    · cases packed
    · dsimp only at packed
      split at packed
      next room =>
        have complete : fread io.freadOrigin sizeofBootheader files.origin =
            files.origin.take sizeofBootheader := by
          apply length_of_length_transfer
          exact Nat.le_trans (List.length_take_le _ _) room
        have long : sizeofBootheader ≤ files.origin.length := by
          rw [complete, List.length_take] at room
          omega
        split at packed
        · cases packed
        · split at packed
          · cases packed
          · split at packed
            · cases packed
            · let base := Bootheader.ofBytes
                (fread io.freadOrigin sizeofBootheader files.origin) room
              let cmdline : Bytes cmdlineSize :=
                ⟨copyCmdline io.fscanf 0 base.cmdline files.cmdline,
                  (length_copyCmdline _ _ _ _).trans base.cmdline.2⟩
              let file := mergedHeader base cmdline files
                (imageSizes files.bzImage.length files.ramdisk.length uninitialised).2
              have written : writeImage io files { file with xor := calculateChecksum file } _ =
                .exit 0 image := packed
              refine ⟨long, _, writeImage_starts stores written, ?_, xorRange_setChecksum file⟩
              have same : base = files.base long := by
                simp only [base, complete, PackFiles.base]
              rw [← same]
              rfl
      · cases packed

/-- The bytes between the two rules come from the base image. -/
theorem pack_getD {io : PackIo} (stores : io.Stores) {files : PackFiles} {uninitialised : Word}
    {image : List Byte} (packed : pack io files uninitialised = .exit 0 image) {index : Nat}
    (behind : headerSize ≤ index) (inside : index < 224) :
    image.getD index 0#8 = files.origin.getD index 0#8 := by
  obtain ⟨room, hdr, ⟨rest, rfl⟩, padding, _⟩ := pack_exit_zero stores packed
  have place : headerSize + (index - headerSize) = index := by omega
  have within : index - headerSize < headPaddingSize := by
    unfold headPaddingSize
    omega
  have header : index < sizeofBootheader := Nat.lt_trans inside (by decide)
  have carried : (files.base room).headPadding.1 =
      slice (files.origin.take sizeofBootheader) headerSize headPaddingSize := rfl
  have read := getD_slice (hdr.toBytes ++ rest) headerSize within
  rw [headPadding_toBytes, padding, carried, getD_slice _ _ within, place] at read
  rw [← read, List.getD_eq_getElem?_getD, List.getElem?_take_of_lt header,
    ← List.getD_eq_getElem?_getD]

/-- The tail's fold depends only on the bytes from 56 to 223. -/
theorem tailFold_congr {data data' : List Byte}
    (agree : ∀ index, headerSize ≤ index → index < 224 →
      data.getD index 0#8 = data'.getD index 0#8) :
    tailFold data = tailFold data' := by
  apply xorRange_congr
  intro index bound
  exact agree _ (Nat.le_add_right _ _) (Nat.add_lt_add_left bound headerSize)

/-- An image that starts with a sealed header folds to zero over it. -/
theorem foldsToZero_of_header {hdr : Bootheader} {image : List Byte}
    (header : hdr.toBytes <+: image) (sealed : FoldsToZero hdr.toBytes headerSize) :
    FoldsToZero image headerSize := by
  obtain ⟨rest, rfl⟩ := header
  refine Eq.trans (xorRange_congr fun index bound => ?_) sealed
  apply List.getD_append
  rw [hdr.length_toBytes]
  exact Nat.lt_trans bound (by decide)

/-- Both checksums of a fixed image of `pack_intel` hold exactly if the bytes between
them fold to zero in the base image, from which they are carried through. If they do, an
image that has the type already, fixed before or not, is left as it is. -/
theorem fixOsipHeader_pack {io : PackIo} (stores : io.Stores) {files : PackFiles}
    {uninitialised : Word} {image : List Byte}
    (packed : pack io files uninitialised = .exit 0 image) (ostype : OsType) :
    ∃ fixed, fixOsipHeader image ostype = some fixed ∧
      (∀ index, headerSize ≤ index → index < 224 →
        image.getD index 0#8 = files.origin.getD index 0#8 ∧
          fixed.getD index 0#8 = files.origin.getD index 0#8) ∧
      (FoldsToZero fixed headerSize ∧ FoldsToZero fixed 224 ↔ tailFold files.origin = 0#8) ∧
      (tailFold files.origin = 0#8 →
        (image.getD osipAttributeOffset 0#8 = osipAttribute image ostype →
          fixOsipHeader image ostype = some image) ∧
        fixOsipHeader fixed ostype = some fixed) := by
  obtain ⟨_, hdr, header, _, sealed⟩ := pack_exit_zero stores packed
  have room : 224 ≤ image.length := by
    have longer := header.length_le
    rw [hdr.length_toBytes] at longer
    exact Nat.le_trans (by decide) longer
  have narrow := foldsToZero_of_header header sealed
  have run := (fixOsipHeader_eq_some ostype).mpr ⟨room, rfl⟩
  have wide := fixOsipHeader_foldsToZero ostype run
  have carried : ∀ index, headerSize ≤ index → index < 224 →
      image.getD index 0#8 = files.origin.getD index 0#8 := fun _ => pack_getD stores packed
  have kept : ∀ index, headerSize ≤ index → index < 224 →
      ((clearedHeader image ostype).set osipCrcOffset (xorRange
        (fun index => (clearedHeader image ostype).getD index 0#8) 224)).getD index 0#8 =
          files.origin.getD index 0#8 := by
    intro index behind inside
    have notType : index ≠ osipAttributeOffset := by
      unfold osipAttributeOffset
      have : 56 ≤ index := behind
      omega
    have notCrc : index ≠ osipCrcOffset := by
      unfold osipCrcOffset
      have : 56 ≤ index := behind
      omega
    rw [getD_fixOsipHeader ostype run notType notCrc, carried index behind inside]
  refine ⟨_, run, fun index behind inside =>
    ⟨carried index behind inside, kept index behind inside⟩, ?_, ?_⟩
  · rw [← tailFold_congr kept, ← foldsToZero_iff wide]
    exact ⟨And.left, fun narrow => ⟨narrow, wide⟩⟩
  · intro tail
    rw [← tailFold_congr carried] at tail
    exact ⟨fixOsipHeader_self ostype room (foldsToZero_of_tail narrow tail),
      fixOsipHeader_twice ostype run⟩

theorem fixOsipHeader_pack_small : ∃ image fixed, pack .reliable .small 7#32 = .exit 0 image ∧
    fixOsipHeader image .recovery = some fixed ∧ FoldsToZero fixed headerSize ∧
      FoldsToZero fixed 224 := by
  have zeros : tailFold PackFiles.small.origin = 0#8 := by
    apply xorRange_of_zero
    intro index bound
    have inside : headerSize + index < sizeofBootheader :=
      Nat.lt_trans (Nat.add_lt_add_left bound headerSize) (by decide)
    exact List.getD_replicate 0#8 inside
  obtain ⟨fixed, run, _, both, _⟩ := fixOsipHeader_pack PackIo.reliable_succeeds.stores small_packed .recovery
  exact ⟨_, fixed, small_packed, run, both.mpr zeros⟩

end T00F.Mkbootimg
