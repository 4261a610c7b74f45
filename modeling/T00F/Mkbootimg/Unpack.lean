import T00F.Mkbootimg.Pack

/-!
# unpack_intel

`main` of `unpack.c`, which splits a boot image into kernel, ramdisk and command
line. Its copy loops do not end at the end of the image, so a run has a bound on
their iterations. `unpack_parts` gives the parts of an image by its header,
`unpack_pack_iff` says when they are those that `pack_intel` was given.
-/

namespace T00F.Mkbootimg

open Systems

/-- The files of `unpack_intel`. -/
inductive UnpackFile where
  | origin | bzImage | ramdisk | cmdline
deriving DecidableEq, Repr

/-- The outcomes of the library calls. Calls that repeat are numbered. The outputs are
flushed when the program exits. -/
structure UnpackIo where
  fopen : UnpackFile → Bool
  fseek : Nat → Bool
  freadCmdline : Nat → Option Nat
  fwriteCmdline : Nat → WriteResult
  freadBzImageLen : Option Nat
  freadRamdiskLen : Option Nat
  freadBzImage : Nat → Option Nat
  fwriteBzImage : Nat → WriteResult
  freadRamdisk : Nat → Option Nat
  fwriteRamdisk : Nat → WriteResult
  flush : UnpackFile → Option Nat

/-- No call fails. -/
structure UnpackIo.Succeeds (io : UnpackIo) : Prop where
  fopen : ∀ file, io.fopen file = true
  fseek : ∀ call, io.fseek call = true
  freadCmdline : ∀ call, io.freadCmdline call = none
  fwriteCmdline : ∀ call, (io.fwriteCmdline call).limit = none
  freadBzImageLen : io.freadBzImageLen = none
  freadRamdiskLen : io.freadRamdiskLen = none
  freadBzImage : ∀ call, io.freadBzImage call = none
  fwriteBzImage : ∀ call, (io.fwriteBzImage call).limit = none
  freadRamdisk : ∀ call, io.freadRamdisk call = none
  fwriteRamdisk : ∀ call, (io.fwriteRamdisk call).limit = none
  flush : ∀ file, io.flush file = none

/-- The calls of a machine on which everything works. -/
def UnpackIo.reliable : UnpackIo :=
  ⟨fun _ => true, fun _ => true, fun _ => none, fun _ => .whole, none, none, fun _ => none,
    fun _ => .whole, fun _ => none, fun _ => .whole, fun _ => none⟩

/-- The reliable environment succeeds in every call. -/
theorem UnpackIo.reliable_succeeds : UnpackIo.reliable.Succeeds where
  fopen _ := rfl
  fseek _ := rfl
  freadCmdline _ := rfl
  fwriteCmdline _ := rfl
  freadBzImageLen := rfl
  freadRamdiskLen := rfl
  freadBzImage _ := rfl
  fwriteBzImage _ := rfl
  freadRamdisk _ := rfl
  fwriteRamdisk _ := rfl
  flush _ := rfl

/-- How a run ends: with an exit code and what the three outputs hold then, or with
undefined behaviour. -/
inductive UnpackOutcome where
  | exit (code : Nat) (bzImage ramdisk cmdline : List Byte)
  | undefined
deriving DecidableEq, Repr

/-- The program exits, which flushes what it has written. -/
def UnpackIo.exit (io : UnpackIo) (code : Nat) (bzImage ramdisk cmdline : OutputStream) :
    UnpackOutcome :=
  .exit code (bzImage.flush (io.flush .bzImage)) (ramdisk.flush (io.flush .ramdisk))
    (cmdline.flush (io.flush .cmdline))

/-- Copy the ramdisk, the last part of the run. -/
def unpackRamdisk (io : UnpackIo) (fuel : Nat) (image : List Byte) (bzImageLen ramdiskLen : Word)
    (cmdline bzImage : OutputStream) : Option UnpackOutcome :=
  if !io.fseek 4 then some (io.exit 1 bzImage .empty cmdline)
  else
    match copyMissing io.freadRamdisk io.fwriteRamdisk bufsiz fuel ramdiskLen.toNat
        (image.drop (sizeofBootheader + bzImageLen.toNat)) with
    | none => none
    | some ramdisk => some (io.exit 0 bzImage ramdisk cmdline)

/-- Copy the kernel, then the ramdisk. The stream of the kernel may be unopened:
the source tests the name of the file in its place. -/
def unpackBzImage (io : UnpackIo) (fuel : Nat) (image : List Byte) (bzImageLen ramdiskLen : Word)
    (cmdline : OutputStream) : Option UnpackOutcome :=
  if !io.fseek 3 then some (io.exit 1 .empty .empty cmdline)
  else if !io.fopen .bzImage && bzImageLen != 0#32 then some .undefined
  else
    match copyMissing io.freadBzImage io.fwriteBzImage bufsiz fuel bzImageLen.toNat
        (image.drop sizeofBootheader) with
    | none => none
    | some bzImage => unpackRamdisk io fuel image bzImageLen ramdiskLen cmdline bzImage

/-- `main` of `unpack.c` for four file names; `none` if a copy loop takes more than
`fuel` tests of its condition. -/
def unpack (io : UnpackIo) (fuel : Nat) (image : List Byte) : Option UnpackOutcome :=
  if !io.fopen .origin || !io.fopen .ramdisk || !io.fopen .cmdline then some (.exit 1 [] [] [])
  else if !io.fseek 0 then some (.exit 1 [] [] [])
  else
    match copyMissing io.freadCmdline io.fwriteCmdline bufsiz fuel cmdlineSize
        (image.drop cmdlineStart) with
    | none => none
    | some cmdline =>
        if !io.fseek 1 then some (io.exit 1 .empty .empty cmdline)
        else
          let bzImageLen := fread io.freadBzImageLen 4 (image.drop cmdlineEnd)
          if bzImageLen.length < 4 then some (io.exit 1 .empty .empty cmdline)
          else if !io.fseek 2 then some (io.exit 1 .empty .empty cmdline)
          else
            let ramdiskLen := fread io.freadRamdiskLen 4 (image.drop (cmdlineEnd + 4))
            if ramdiskLen.length < 4 then some (io.exit 1 .empty .empty cmdline)
            else unpackBzImage io fuel image (wordOf bzImageLen 0) (wordOf ramdiskLen 0) cmdline

/-! ## The parts of an image -/

/-- A word inside the data is that of the four bytes at its offset. -/
theorem wordOf_slice {data : List Byte} {offset : Nat} (inside : offset + 4 ≤ data.length) :
    wordOf (slice data offset 4) 0 = wordOf data offset := by
  have read := wordOf_toBytes [] [] (wordOf data offset) List.length_nil
  rwa [List.nil_append, List.append_nil, toBytes_wordOf inside] at read

/-- A run without failures leaves in the outputs what was written to them. -/
theorem UnpackIo.Succeeds.exit_eq {io : UnpackIo} (succeeds : io.Succeeds) (code : Nat)
    (bzImage ramdisk cmdline : OutputStream) : io.exit code bzImage ramdisk cmdline =
      .exit code bzImage.contents ramdisk.contents cmdline.contents := by
  rw [UnpackIo.exit, succeeds.flush, succeeds.flush, succeeds.flush]
  rfl

/-- A run without failures copies the command line of an image that is long enough. -/
theorem unpackCmdline_eq {io : UnpackIo} (succeeds : io.Succeeds) {fuel : Nat} {image : List Byte}
    (room : cmdlineEnd ≤ image.length) (fueled : cmdlineSize < fuel) :
    ∃ cmdline, copyMissing io.freadCmdline io.fwriteCmdline bufsiz fuel cmdlineSize
        (image.drop cmdlineStart) = some cmdline ∧
      cmdline.contents = slice image cmdlineStart cmdlineSize := by
  have buffer : 0 < bufsiz := by unfold bufsiz; omega
  have line : cmdlineSize ≤ (image.drop cmdlineStart).length := by
    rw [List.length_drop]
    exact Nat.le_sub_of_add_le' room
  exact copyMissing_eq succeeds.freadCmdline succeeds.fwriteCmdline buffer line fueled

/-- A run without failures reads the two lengths and then the parts. -/
theorem unpack_eq {io : UnpackIo} (succeeds : io.Succeeds) {fuel : Nat} {image : List Byte}
    (room : cmdlineEnd + 8 ≤ image.length) (fueled : cmdlineSize < fuel) :
    ∃ cmdline : OutputStream, cmdline.contents = slice image cmdlineStart cmdlineSize ∧
      unpack io fuel image = unpackBzImage io fuel image (wordOf image cmdlineEnd)
        (wordOf image (cmdlineEnd + 4)) cmdline := by
  have first : cmdlineEnd + 4 ≤ image.length := by omega
  have second : cmdlineEnd + 4 + 4 ≤ image.length := room
  obtain ⟨cmdline, run, line⟩ :=
    unpackCmdline_eq succeeds (show cmdlineEnd ≤ image.length by omega) fueled
  have lengths : ∀ offset, (image.drop offset).take 4 = slice image offset 4 := fun _ => rfl
  refine ⟨cmdline, line, ?_⟩
  simp only [unpack, succeeds.fopen, succeeds.fseek, run, succeeds.freadBzImageLen,
    succeeds.freadRamdiskLen, fread_none, lengths, length_slice first, length_slice second,
    wordOf_slice first, wordOf_slice second, Bool.not_true, Bool.or_self, Bool.false_eq_true,
    if_false, Nat.lt_irrefl]

/-- A run without failures copies the parts of an image that holds them. -/
theorem unpackBzImage_eq {io : UnpackIo} (succeeds : io.Succeeds) {fuel : Nat} {image : List Byte}
    {bzImageLen ramdiskLen : Word} (cmdline : OutputStream)
    (kernel : bzImageLen.toNat ≤ (image.drop sizeofBootheader).length)
    (initrd : ramdiskLen.toNat ≤ (image.drop (sizeofBootheader + bzImageLen.toNat)).length)
    (kernelFueled : bzImageLen.toNat < fuel) (initrdFueled : ramdiskLen.toNat < fuel) :
    unpackBzImage io fuel image bzImageLen ramdiskLen cmdline = some (.exit 0
      ((image.drop sizeofBootheader).take bzImageLen.toNat)
      ((image.drop (sizeofBootheader + bzImageLen.toNat)).take ramdiskLen.toNat)
      cmdline.contents) := by
  have buffer : 0 < bufsiz := by unfold bufsiz; omega
  obtain ⟨bzImage, copiedKernel, bzImageContents⟩ :=
    copyMissing_eq succeeds.freadBzImage succeeds.fwriteBzImage buffer kernel kernelFueled
  obtain ⟨ramdisk, copiedRamdisk, ramdiskContents⟩ :=
    copyMissing_eq succeeds.freadRamdisk succeeds.fwriteRamdisk buffer initrd initrdFueled
  simp only [unpackBzImage, unpackRamdisk, succeeds.fseek, succeeds.fopen, copiedKernel,
    copiedRamdisk, succeeds.exit_eq, bzImageContents, ramdiskContents, Bool.not_true,
    Bool.false_and, Bool.false_eq_true, if_false]

/-- The parts of an image whose header counts them, whatever follows them. -/
theorem unpack_parts {io : UnpackIo} (succeeds : io.Succeeds) {fuel : Nat} (hdr : Bootheader)
    (bzImage ramdisk trailing : List Byte) (bzImageSize : hdr.bzImageSize.toNat = bzImage.length)
    (initrdSize : hdr.initrdSize.toNat = ramdisk.length) (line : cmdlineSize < fuel)
    (kernel : bzImage.length < fuel) (initrd : ramdisk.length < fuel) :
    unpack io fuel (hdr.toBytes ++ (bzImage ++ (ramdisk ++ trailing))) =
      some (.exit 0 bzImage ramdisk hdr.cmdline) := by
  have room : cmdlineEnd + 8 ≤ (hdr.toBytes ++ (bzImage ++ (ramdisk ++ trailing))).length := by
    rw [List.length_append, hdr.length_toBytes]
    exact Nat.le_trans (by decide) (Nat.le_add_right _ _)
  have behindHeader : (hdr.toBytes ++ (bzImage ++ (ramdisk ++ trailing))).drop sizeofBootheader =
      bzImage ++ (ramdisk ++ trailing) := List.drop_left' hdr.length_toBytes
  have behindKernel : (hdr.toBytes ++ (bzImage ++ (ramdisk ++ trailing))).drop
      (sizeofBootheader + bzImage.length) = ramdisk ++ trailing := by
    rw [← List.drop_drop, behindHeader, List.drop_left]
  obtain ⟨cmdline, contents, run⟩ := unpack_eq succeeds room line
  rw [run, bzImageSize_toBytes, initrdSize_toBytes, unpackBzImage_eq succeeds, contents,
    cmdline_toBytes, bzImageSize, initrdSize, behindHeader, behindKernel, List.take_left,
    List.take_left]
  · rw [behindHeader, bzImageSize, List.length_append]
    exact Nat.le_add_right _ _
  · rw [bzImageSize, behindKernel, initrdSize, List.length_append]
    exact Nat.le_add_right _ _
  · rwa [bzImageSize]
  · rwa [initrdSize]

/-- What `pack_intel` wrote in front of the padding. -/
theorem image_take {files : PackFiles} (room : sizeofBootheader ≤ files.origin.length)
    (uninitialised : Word) : (files.image room uninitialised).take files.unpadded =
      (files.header room uninitialised).toBytes ++ (files.bzImage ++ files.ramdisk) := by
  have length : ((files.header room uninitialised).toBytes ++ files.bzImage ++
      files.ramdisk).length = files.unpadded := by
    rw [List.length_append, List.length_append, Bootheader.length_toBytes]
    rfl
  rw [PackFiles.image, List.take_left' length, List.append_assoc]

/-- `pack_intel` writes an image, and unpacking it gives back the kernel, the ramdisk and the
start of the command line, whatever follows the ramdisk. -/
def Unpacks (packIo : PackIo) (io : UnpackIo) (files : PackFiles) (uninitialised : Word) : Prop :=
  ∃ image, pack packIo files uninitialised = .exit 0 image ∧
    ∀ trailing, ∃ enough, ∀ fuel ≥ enough,
      unpack io fuel (image.take files.unpadded ++ trailing) =
        some (.exit 0 files.bzImage files.ramdisk (files.cmdline.take cmdlineSize))

/-- Whatever `pack_intel` has written unpacks. -/
theorem unpack_image {io : UnpackIo} (unpacks : io.Succeeds) (files : PackFiles)
    (room : sizeofBootheader ≤ files.origin.length) (line : cmdlineSize ≤ files.cmdline.length)
    (small : files.rounded < 2 ^ 32) (uninitialised : Word) (trailing : List Byte) {fuel : Nat}
    (fueled : cmdlineSize + files.unpadded < fuel) :
    unpack io fuel ((files.image room uninitialised).take files.unpadded ++ trailing) =
      some (.exit 0 files.bzImage files.ramdisk (files.cmdline.take cmdlineSize)) := by
  have sizes : files.unpadded ≤ files.rounded := by
    unfold PackFiles.rounded sectorSize
    omega
  have parts : files.unpadded = 13280 + files.bzImage.length + files.ramdisk.length := rfl
  have bzImageSize : (files.header room uninitialised).bzImageSize.toNat = files.bzImage.length :=
    (BitVec.toNat_ofNat _ _).trans (Nat.mod_eq_of_lt (by omega))
  have initrdSize : (files.header room uninitialised).initrdSize.toNat = files.ramdisk.length :=
    (BitVec.toNat_ofNat _ _).trans (Nat.mod_eq_of_lt (by omega))
  have cmdline : (files.header room uninitialised).cmdline.1 = files.cmdline.take cmdlineSize := by
    have covered : (files.base room).cmdline.1.drop files.cmdline.length = [] :=
      List.drop_eq_nil_of_le (Nat.le_trans (Nat.le_of_eq (files.base room).cmdline.2) line)
    have field : (files.header room uninitialised).cmdline.1 =
        files.cmdline.take cmdlineSize ++ (files.base room).cmdline.1.drop files.cmdline.length := rfl
    rw [field, covered, List.append_nil]
  rw [image_take, List.append_assoc, List.append_assoc, ← cmdline]
  exact unpack_parts unpacks _ _ _ _ bzImageSize initrdSize (by omega) (by omega) (by omega)

/-- What `pack_intel` was given comes back exactly if it does not fill its buffer with more
padding than fits. -/
theorem unpack_pack_iff {packIo : PackIo} (packs : packIo.Succeeds) {io : UnpackIo}
    (unpacks : io.Succeeds) (files : PackFiles) (room : sizeofBootheader ≤ files.origin.length)
    (line : cmdlineSize ≤ files.cmdline.length) (small : files.rounded < 2 ^ 32)
    (uninitialised : Word) :
    Unpacks packIo io files uninitialised ↔
      files.unpadded % sectorSize ≠ 0 ∨ uninitialised.toNat ≤ bufsiz := by
  rw [← paddings_le_iff]
  constructor
  · rintro ⟨image, written, _⟩
    rw [pack_eq packs files room] at written
    split at written
    · cases written
    next fits => exact Nat.le_of_not_lt fits
  · intro fits
    exact ⟨_, (pack_eq packs files room uninitialised).trans (if_neg (Nat.not_lt_of_le fits)),
      fun trailing => ⟨cmdlineSize + files.unpadded + 1, fun fuel enough =>
        unpack_image unpacks files room line small uninitialised trailing enough⟩⟩

/-- A kernel of three bytes, a ramdisk of one and a command line that fills its
field. -/
def PackFiles.small : PackFiles where
  origin := .replicate sizeofBootheader 0#8
  bzImage := [0x4d#8, 0x5a#8, 0x90#8]
  ramdisk := [0x1f#8]
  cmdline := .replicate cmdlineSize (ascii 'a')

theorem small_room : sizeofBootheader ≤ PackFiles.small.origin.length := by
  rw [PackFiles.small, List.length_replicate]

theorem small_packed :
    pack .reliable .small 7#32 = .exit 0 (PackFiles.small.image small_room 7#32) :=
  pack_unaligned PackIo.reliable_succeeds small_room (by decide) 7#32

theorem unpack_pack_small : Unpacks .reliable .reliable .small 7#32 := by
  have line : cmdlineSize ≤ PackFiles.small.cmdline.length := by
    rw [PackFiles.small, List.length_replicate]
  exact (unpack_pack_iff PackIo.reliable_succeeds UnpackIo.reliable_succeeds .small small_room line
    (by decide) 7#32).mpr (Or.inl (by decide))

/-- Files whose header and kernel fill 26 sectors, with a command line that fills its
field. -/
def PackFiles.wholeLine : PackFiles :=
  { PackFiles.wholeSectors with cmdline := .replicate cmdlineSize (ascii 'a') }

/-- If the local holds 100000, `pack_intel` overruns its buffer and there is no image. -/
theorem unpack_pack_overrun : sizeofBootheader ≤ PackFiles.wholeLine.origin.length ∧
    cmdlineSize ≤ PackFiles.wholeLine.cmdline.length ∧
    PackFiles.wholeLine.rounded < 2 ^ 32 ∧
    ¬ Unpacks .reliable .reliable .wholeLine 100000#32 := by
  have room : sizeofBootheader ≤ PackFiles.wholeLine.origin.length := by
    rw [PackFiles.wholeLine, PackFiles.wholeSectors, List.length_replicate]
  refine ⟨room, ?_, wholeSectors_small, ?_⟩
  · rw [PackFiles.wholeLine, List.length_replicate]
  · rintro ⟨image, written, _⟩
    have aligned : PackFiles.wholeLine.unpadded % sectorSize = 0 := by
      rw [show PackFiles.wholeLine.unpadded = _ from wholeSectors_unpadded]
      rfl
    have large : bufsiz < (PackFiles.wholeLine.paddings 100000#32).toNat := by
      rw [paddings_toNat, if_pos aligned]
      decide
    rw [pack_eq PackIo.reliable_succeeds .wholeLine room, if_pos large] at written
    cases written

end T00F.Mkbootimg
