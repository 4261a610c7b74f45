import T00F.Mkbootimg.OsipHeader

/-!
# Unpacking and packing again

An image that is as its header says comes back from `unpack_intel` and `pack_intel`
byte for byte: `repack_bootImage`. A `BootImage` cannot hold any other.
-/

namespace T00F.Mkbootimg

open Systems

/-- A well-formed image: the parts have the lengths that the header stores, some padding
completes the last sector, and the header counts the sectors and is sealed. -/
structure BootImage where
  hdr : Bootheader
  bzImage : List Byte
  ramdisk : List Byte
  padding : Nat
  bzImageSize : hdr.bzImageSize.toNat = bzImage.length
  initrdSize : hdr.initrdSize.toNat = ramdisk.length
  padded : 0 < padding ∧ padding < sectorSize
  sectors : sizeofBootheader + bzImage.length + ramdisk.length + padding =
    sectorSize * (hdr.sectors.toNat + 1)
  small : sizeofBootheader + bzImage.length + ramdisk.length + padding < 2 ^ 32
  sealed : FoldsToZero hdr.toBytes headerSize

namespace BootImage

/-- The bytes of the image. -/
def bytes (image : BootImage) : List Byte :=
  image.hdr.toBytes ++ (image.bzImage ++ (image.ramdisk ++ .replicate image.padding 0xff#8))

/-- What `pack_intel` is given to put the image together again. -/
def parts (image : BootImage) : PackFiles where
  origin := image.bytes
  bzImage := image.bzImage
  ramdisk := image.ramdisk
  cmdline := image.hdr.cmdline

variable (image : BootImage)

/-- The original header of the parts is long enough for `pack` to read. -/
theorem room : sizeofBootheader ≤ image.parts.origin.length := by
  have length : image.parts.origin.length = sizeofBootheader + _ :=
    (List.length_append).trans (congrArg (· + _) image.hdr.length_toBytes)
  rw [length]
  exact Nat.le_add_right _ _

/-- The parts do not fill their last sector, and the padding of the image does. -/
theorem unpadded_parts : image.parts.unpadded % sectorSize ≠ 0 ∧
    image.parts.rounded = image.parts.unpadded + image.padding := by
  have sectors := image.sectors
  have padded := image.padded
  have unpadded : image.parts.unpadded =
      sizeofBootheader + image.bzImage.length + image.ramdisk.length := rfl
  rw [← unpadded] at sectors
  unfold PackFiles.rounded sectorSize at *
  omega

/-- The total of the parts stays below the word size. -/
theorem rounded_small : image.parts.rounded < 2 ^ 32 := by
  rw [image.unpadded_parts.2]
  exact image.small

/-- The header that `pack` starts from is the header of the image. -/
theorem base_parts : image.parts.base image.room = image.hdr := by
  have header : image.parts.origin.take sizeofBootheader = image.hdr.toBytes ++ [] := by
    rw [List.append_nil]
    exact List.take_left' image.hdr.length_toBytes
  exact Bootheader.ofBytes_toBytes image.hdr header _

/-- Writing the command line over itself changes nothing. -/
theorem packedCmdline_self (cmdline : Bytes cmdlineSize) :
    packedCmdline cmdline cmdline.1 = cmdline := by
  apply Subtype.ext
  rw [packedCmdline_val, List.drop_length, List.append_nil, List.take_of_length_le]
  exact Nat.le_of_eq cmdline.2

/-- Every member that `pack_intel` computes is the one that is stored. -/
theorem unsealedHeader_parts (uninitialised : Word) :
    image.parts.unsealedHeader image.room uninitialised = image.hdr := by
  have bzImageSize : BitVec.ofNat 32 image.parts.bzImage.length = image.hdr.bzImageSize := by
    have stored : image.hdr.bzImageSize.toNat = image.parts.bzImage.length := image.bzImageSize
    rw [← stored, BitVec.ofNat_toNat, BitVec.setWidth_eq]
  have initrdSize : BitVec.ofNat 32 image.parts.ramdisk.length = image.hdr.initrdSize := by
    have stored : image.hdr.initrdSize.toNat = image.parts.ramdisk.length := image.initrdSize
    rw [← stored, BitVec.ofNat_toNat, BitVec.setWidth_eq]
  have sectors : (image.parts.header image.room uninitialised).sectors = image.hdr.sectors := by
    have counted := header_sectors uninitialised image.room image.rounded_small
    have stored : image.parts.rounded = sectorSize * (image.hdr.sectors.toNat + 1) := by
      rw [image.unpadded_parts.2]
      exact image.sectors
    apply BitVec.eq_of_toNat_eq
    rw [stored] at counted
    have same := Nat.eq_of_mul_eq_mul_left (by decide) counted
    exact Nat.succ.inj same
  have fields : image.parts.unsealedHeader image.room uninitialised =
      { image.hdr with
        cmdline := packedCmdline image.hdr.cmdline image.hdr.cmdline.1
        bzImageSize := BitVec.ofNat 32 image.parts.bzImage.length
        initrdSize := BitVec.ofNat 32 image.parts.ramdisk.length
        sectors := (image.parts.header image.room uninitialised).sectors } := by
    rw [PackFiles.unsealedHeader, base_parts]
    rfl
  rw [fields, packedCmdline_self, bzImageSize, initrdSize, sectors]

/-- `pack` rebuilds the header of the image from its parts. -/
theorem header_parts (uninitialised : Word) :
    image.parts.header image.room uninitialised = image.hdr := by
  have sum : calculateChecksum image.hdr = image.hdr.xor := by
    have sealed := image.sealed
    rw [FoldsToZero] at sealed
    rw [calculateChecksum_eq, sealed, BitVec.xor_zero]
  rw [PackFiles.header, unsealedHeader_parts, sum]

/-- `pack` rebuilds the whole image from its parts. -/
theorem image_parts (uninitialised : Word) :
    image.parts.image image.room uninitialised = image.bytes := by
  have padding : (image.parts.paddings uninitialised).toNat = image.padding := by
    obtain ⟨unaligned, rounded⟩ := image.unpadded_parts
    rw [paddings_toNat, if_neg unaligned, rounded, Nat.add_sub_cancel_left]
  rw [PackFiles.image, header_parts, padding, List.append_assoc, List.append_assoc]
  rfl

end BootImage

/-- Unpacking an image and packing its parts again on top of it gives the same image. -/
def Repacks (unpackIo : UnpackIo) (packIo : PackIo) (uninitialised : Word) (image : List Byte) :
    Prop :=
  ∃ enough, ∀ fuel ≥ enough, ∃ bzImage ramdisk cmdline,
    unpack unpackIo fuel image = some (.exit 0 bzImage ramdisk cmdline) ∧
      pack packIo ⟨image, bzImage, ramdisk, cmdline⟩ uninitialised = .exit 0 image

/-- Unpacking and packing a well-formed image gives its bytes back. -/
theorem repacks_bytes (image : BootImage) {unpackIo : UnpackIo} (unpacks : unpackIo.Succeeds)
    {packIo : PackIo} (packs : packIo.Succeeds) (uninitialised : Word) :
    Repacks unpackIo packIo uninitialised image.bytes := by
  refine ⟨cmdlineSize + image.bzImage.length + image.ramdisk.length + 1, fun fuel enough =>
    ⟨image.bzImage, image.ramdisk, image.hdr.cmdline, ?_, ?_⟩⟩
  · exact unpack_parts unpacks image.hdr image.bzImage image.ramdisk _ image.bzImageSize
      image.initrdSize (by omega) (by omega) (by omega)
  · have packed := pack_unaligned packs image.room image.unpadded_parts.1 uninitialised
    rw [image.image_parts] at packed
    exact packed

/-- What `pack_intel` writes is such an image, unless its parts fill whole sectors. -/
theorem pack_bytes {packIo : PackIo} (packs : packIo.Succeeds) {files : PackFiles}
    (unaligned : files.unpadded % sectorSize ≠ 0) (small : files.rounded < 2 ^ 32)
    {uninitialised : Word} {output : List Byte}
    (packed : pack packIo files uninitialised = .exit 0 output) :
    ∃ image : BootImage, image.bytes = output := by
  by_cases room : sizeofBootheader ≤ files.origin.length
  · rw [pack_unaligned packs room unaligned] at packed
    injection packed with _ same
    have complete : files.unpadded ≤ files.rounded ∧
        files.rounded < files.unpadded + sectorSize ∧ files.unpadded ≠ files.rounded := by
      unfold PackFiles.rounded sectorSize at *
      omega
    have parts : files.unpadded =
      sizeofBootheader + files.bzImage.length + files.ramdisk.length := rfl
    have sectors := header_sectors uninitialised room small
    refine ⟨{
      hdr := files.header room uninitialised
      bzImage := files.bzImage
      ramdisk := files.ramdisk
      padding := (files.paddings uninitialised).toNat
      bzImageSize := (BitVec.toNat_ofNat _ _).trans (Nat.mod_eq_of_lt (by omega))
      initrdSize := (BitVec.toNat_ofNat _ _).trans (Nat.mod_eq_of_lt (by omega))
      padded := ?_
      sectors := ?_
      small := ?_
      sealed := xorRange_setChecksum _ }, ?_⟩
    · rw [paddings_toNat, if_neg unaligned]
      omega
    · rw [paddings_toNat, if_neg unaligned, sectors]
      omega
    · rw [paddings_toNat, if_neg unaligned]
      omega
    · rw [← same, PackFiles.image, List.append_assoc, List.append_assoc]
      rfl
  · rw [pack_short packs (Nat.lt_of_not_le room)] at packed
    injection packed with failed
    cases failed

/-- Well-formed images come back byte for byte, among them what `pack_intel` writes. -/
theorem repack_bootImage {unpackIo : UnpackIo} (unpacks : unpackIo.Succeeds) {packIo : PackIo}
    (packs : packIo.Succeeds) (uninitialised : Word) :
    (∀ image : BootImage, Repacks unpackIo packIo uninitialised image.bytes) ∧
      ∀ files, files.unpadded % sectorSize ≠ 0 → files.rounded < 2 ^ 32 →
        ∀ (held : Word) output, pack packIo files held = .exit 0 output →
          Repacks unpackIo packIo uninitialised output := by
  refine ⟨fun image => repacks_bytes image unpacks packs uninitialised, ?_⟩
  intro files unaligned small held output packed
  obtain ⟨image, rfl⟩ := pack_bytes packs unaligned small packed
  exact repacks_bytes image unpacks packs uninitialised

theorem repack_bootImage_small : ∃ image, pack .reliable .small 7#32 = .exit 0 image ∧
    Repacks .reliable .reliable 0#32 image := by
  have repacked := repack_bootImage UnpackIo.reliable_succeeds PackIo.reliable_succeeds 0#32
  exact ⟨_, small_packed, repacked.2 .small (by decide) (by decide) 7#32 _ small_packed⟩

end T00F.Mkbootimg
