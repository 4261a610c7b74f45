import T00F.Mkbootimg.Bootheader
import T00F.Systems.CopyLoop
import T00F.Systems.Text

/-!
# pack_intel

`main` of `pack.c`, which puts a kernel, a ramdisk and a command line behind the
header of a base image. The outcome of every library call is given by a `PackIo`,
that of the flush of the output when the program exits among them, the value of the
uninitialised local `paddings` by an argument. `pack_eq` gives the image of a run in
which no call fails, `pack_wellFormed_iff` says when it has the length that its header
announces.
-/

namespace T00F.Mkbootimg

open Systems

/-- `BUFSIZ` -/
def bufsiz : Nat := 8192

/-- The files of `pack_intel`. -/
inductive PackFile where
  | origin | bzImage | ramdisk | cmdline | output
deriving DecidableEq, Repr

/-- The outcomes of the library calls. Calls that repeat are numbered. The output is never
closed: its buffer is flushed when the program exits, and nobody sees what comes of it. -/
structure PackIo where
  fopen : PackFile → Bool
  calloc : Bool
  freadOrigin : Option Nat
  fscanf : Nat → Bool
  stat : PackFile → Bool
  fwriteHeader : WriteResult
  freadBzImage : Nat → Option Nat
  fwriteBzImage : Nat → WriteResult
  freadRamdisk : Nat → Option Nat
  fwriteRamdisk : Nat → WriteResult
  fwritePadding : WriteResult
  flush : Option Nat

/-- No call fails. -/
structure PackIo.Succeeds (io : PackIo) : Prop where
  fopen : ∀ file, io.fopen file = true
  calloc : io.calloc = true
  freadOrigin : io.freadOrigin = none
  fscanf : ∀ call, io.fscanf call = true
  stat : ∀ file, io.stat file = true
  fwriteHeader : io.fwriteHeader.limit = none
  freadBzImage : ∀ call, io.freadBzImage call = none
  fwriteBzImage : ∀ call, (io.fwriteBzImage call).limit = none
  freadRamdisk : ∀ call, io.freadRamdisk call = none
  fwriteRamdisk : ∀ call, (io.fwriteRamdisk call).limit = none
  fwritePadding : io.fwritePadding.limit = none
  flush : io.flush = none

/-- The calls of a machine on which everything works. -/
def PackIo.reliable : PackIo :=
  ⟨fun _ => true, true, none, fun _ => true, fun _ => true, .whole, fun _ => none,
    fun _ => .whole, fun _ => none, fun _ => .whole, .whole, none⟩

/-- The reliable environment succeeds in every call. -/
theorem PackIo.reliable_succeeds : PackIo.reliable.Succeeds where
  fopen _ := rfl
  calloc := rfl
  freadOrigin := rfl
  fscanf _ := rfl
  stat _ := rfl
  fwriteHeader := rfl
  freadBzImage _ := rfl
  fwriteBzImage _ := rfl
  freadRamdisk _ := rfl
  fwriteRamdisk _ := rfl
  fwritePadding := rfl
  flush := rfl

/-- The contents of the input files. -/
structure PackFiles where
  origin : List Byte
  bzImage : List Byte
  ramdisk : List Byte
  cmdline : List Byte
deriving DecidableEq, Repr

/-- How a run ends: with an exit code and what the output file holds then, or with
undefined behaviour. -/
inductive PackOutcome where
  | exit (code : Nat) (output : List Byte)
  | undefined
deriving DecidableEq, Repr

/-- `for (i = 0; i < CMDLINE_SIZE; i++) fscanf(fcmdline, "%c", &file->cmdline[i]);`
A call that fails or meets the end of the file leaves its byte as it is. -/
def copyCmdline (fscanf : Nat → Bool) : Nat → List Byte → List Byte → List Byte
  | _, [], _ => []
  | i, old :: olds, [] => old :: copyCmdline fscanf (i + 1) olds []
  | i, old :: olds, byte :: stream =>
      if fscanf i then byte :: copyCmdline fscanf (i + 1) olds stream
      else old :: copyCmdline fscanf (i + 1) olds (byte :: stream)

/-- Copying the command line keeps the length of the field. -/
theorem length_copyCmdline (fscanf : Nat → Bool) (i : Nat) (cmdline stream : List Byte) :
    (copyCmdline fscanf i cmdline stream).length = cmdline.length := by
  fun_induction copyCmdline with
  | case1 => rfl
  | case2 i old olds ih => simp [ih]
  | case3 i old olds byte stream read ih => simp [ih]
  | case4 i old olds byte stream failed ih => simp [ih]

/-- The size computation: `paddings` and `totalImageSize` for files of the given
lengths. A total that is a multiple of the sector size leaves `paddings` as it is. -/
def imageSizes (bzImage ramdisk : Nat) (paddings : Word) : Word × Word :=
  let totalImageSize : Word := BitVec.ofNat 32 bzImage
  let totalImageSize := totalImageSize + BitVec.ofNat 32 sizeofBootheader
  let totalImageSize := totalImageSize + BitVec.ofNat 32 ramdisk
  let excess := totalImageSize % BitVec.ofNat 32 sectorSize
  if excess > 0#32 then
    let paddings := BitVec.ofNat 32 sectorSize - excess
    (paddings, totalImageSize + paddings)
  else (paddings, totalImageSize)

/-- The output phase: header, kernel, ramdisk and padding. Using a stream that was
not opened, or filling more than the buffer, is undefined. -/
def writeImage (io : PackIo) (files : PackFiles) (file : Bootheader) (paddings : Word) :
    PackOutcome :=
  let output := OutputStream.empty.fwrite io.fwriteHeader file.toBytes
  if (transfer io.fwriteHeader.limit file.toBytes).length < sizeofBootheader then
    .exit 1 (output.flush io.flush)
  else if !io.fopen .bzImage then .undefined
  else
    let output := copyAll io.freadBzImage io.fwriteBzImage bufsiz 0 files.bzImage output
    if !io.fopen .ramdisk then .undefined
    else
      let output := copyAll io.freadRamdisk io.fwriteRamdisk bufsiz 0 files.ramdisk output
      if paddings ≠ 0#32 then
        if bufsiz < paddings.toNat then .undefined
        else
          let buf := List.replicate paddings.toNat 0xff#8
          let output := output.fwrite io.fwritePadding buf
          if (transfer io.fwritePadding.limit buf).length < paddings.toNat then
            .exit 1 (output.flush io.flush)
          else .exit 0 (output.flush io.flush)
      else .exit 0 (output.flush io.flush)

/-- `main` of `pack.c` for five file names. The argument `paddings` is the value
of the uninitialised local. -/
def pack (io : PackIo) (files : PackFiles) (paddings : Word) : PackOutcome :=
  if !io.fopen .origin || !io.fopen .output then .exit 1 []
  else if !io.calloc then .exit 1 []
  else
    let bootstub := fread io.freadOrigin sizeofBootheader files.origin
    if room : sizeofBootheader ≤ bootstub.length then
      let file := Bootheader.ofBytes bootstub room
      if !io.fopen .cmdline then .undefined
      else
        let file := { file with
          cmdline := ⟨copyCmdline io.fscanf 0 file.cmdline files.cmdline,
            (length_copyCmdline _ _ _ _).trans file.cmdline.2⟩ }
        if !io.stat .bzImage then .exit 1 []
        else
          let file := { file with bzImageSize := BitVec.ofNat 32 files.bzImage.length }
          if !io.stat .ramdisk then .exit 1 []
          else
            let (paddings, totalImageSize) :=
              imageSizes files.bzImage.length files.ramdisk.length paddings
            let file := { file with initrdSize := BitVec.ofNat 32 files.ramdisk.length }
            let file := { file with
              sectors := totalImageSize / BitVec.ofNat 32 sectorSize - 1#32 }
            let file := { file with xor := calculateChecksum file }
            writeImage io files file paddings
    else .exit 1 []

/-! ## A run without failures -/

/-- The command line field of the image: the start of the file, then what the base
image has there. -/
def packedCmdline (base : Bytes cmdlineSize) (stream : List Byte) : Bytes cmdlineSize :=
  ⟨stream.take cmdlineSize ++ base.1.drop stream.length, by
    rw [List.length_append, List.length_take, List.length_drop, base.2]
    omega⟩

/-- The command line stands in front of what the base image had there. -/
theorem packedCmdline_val (base : Bytes cmdlineSize) (stream : List Byte) :
    (packedCmdline base stream).1 = stream.take cmdlineSize ++ base.1.drop stream.length := rfl

/-- With every `fscanf` succeeding the field takes the file's bytes in order. -/
theorem copyCmdline_eq {fscanf : Nat → Bool} (succeeds : ∀ call, fscanf call = true) (i : Nat)
    (cmdline stream : List Byte) : copyCmdline fscanf i cmdline stream =
      stream.take cmdline.length ++ cmdline.drop stream.length := by
  fun_induction copyCmdline with
  | case1 => simp
  | case2 i old olds ih => simp [ih]
  | case3 i old olds byte stream read ih => simp [ih]
  | case4 i old olds byte stream failed ih => exact absurd (succeeds i) failed

/-- With every call succeeding the parts are written in order, unless the padding overruns its
buffer. -/
theorem writeImage_eq {io : PackIo} (succeeds : io.Succeeds) (files : PackFiles)
    (file : Bootheader) (paddings : Word) : writeImage io files file paddings =
      if bufsiz < paddings.toNat then .undefined
      else .exit 0 (file.toBytes ++ files.bzImage ++ files.ramdisk ++
        .replicate paddings.toNat 0xff#8) := by
  have buffer : 0 < bufsiz := by unfold bufsiz; omega
  have header : (OutputStream.empty.fwrite io.fwriteHeader file.toBytes).contents =
      file.toBytes :=
    OutputStream.contents_fwrite (by rw [succeeds.fwriteHeader, transfer_none]) .empty
  have bzImage := contents_copyAll
    (lossless_of_none succeeds.freadBzImage succeeds.fwriteBzImage buffer 0 files.bzImage)
  have ramdisk := contents_copyAll
    (lossless_of_none succeeds.freadRamdisk succeeds.fwriteRamdisk buffer 0 files.ramdisk)
  have padding : ∀ output : OutputStream, (output.fwrite io.fwritePadding
      (.replicate paddings.toNat 0xff#8)).contents =
        output.contents ++ .replicate paddings.toNat 0xff#8 :=
    OutputStream.contents_fwrite (by rw [succeeds.fwritePadding, transfer_none])
  simp only [writeImage, succeeds.fopen, succeeds.fwriteHeader, succeeds.fwritePadding,
    succeeds.flush, transfer_none, OutputStream.flush_none, padding, ramdisk, bzImage, header,
    Bootheader.length_toBytes, List.length_replicate, Nat.lt_irrefl, Bool.not_true,
    Bool.false_eq_true, if_false]
  by_cases none : paddings = 0#32
  · simp [none]
  · rw [if_pos none]

section Image

variable (files : PackFiles) (room : sizeofBootheader ≤ files.origin.length) (uninitialised : Word)

/-- The header of the base image. -/
def PackFiles.base : Bootheader :=
  .ofBytes (files.origin.take sizeofBootheader) (by rw [List.length_take_of_le room])

/-- The padding that a run writes. -/
def PackFiles.paddings : Word :=
  (imageSizes files.bzImage.length files.ramdisk.length uninitialised).1

/-- The header of the image, before its checksum is set. -/
def PackFiles.unsealedHeader : Bootheader :=
  { files.base room with
    cmdline := packedCmdline (files.base room).cmdline files.cmdline
    bzImageSize := BitVec.ofNat 32 files.bzImage.length
    initrdSize := BitVec.ofNat 32 files.ramdisk.length
    sectors := (imageSizes files.bzImage.length files.ramdisk.length uninitialised).2 /
      BitVec.ofNat 32 sectorSize - 1#32 }

/-- The header of the image. -/
def PackFiles.header : Bootheader :=
  { files.unsealedHeader room uninitialised with
    xor := calculateChecksum (files.unsealedHeader room uninitialised) }

/-- The image: header, kernel, ramdisk and padding. -/
def PackFiles.image : List Byte :=
  (files.header room uninitialised).toBytes ++ files.bzImage ++ files.ramdisk ++
    .replicate (files.paddings uninitialised).toNat 0xff#8

end Image

/-- A base image that is shorter than its header is rejected. -/
theorem pack_short {io : PackIo} (succeeds : io.Succeeds) {files : PackFiles}
    (short : files.origin.length < sizeofBootheader) (uninitialised : Word) :
    pack io files uninitialised = .exit 1 [] := by
  have few : ¬ sizeofBootheader ≤ (files.origin.take sizeofBootheader).length := by
    rw [List.length_take]
    omega
  simp only [pack, succeeds.fopen, succeeds.calloc, succeeds.freadOrigin, fread_none,
    Bool.not_true, Bool.or_self, Bool.false_eq_true, if_false, dif_neg few]

/-- Any other run writes the image, unless the padding does not fit the buffer. -/
theorem pack_eq {io : PackIo} (succeeds : io.Succeeds) (files : PackFiles)
    (room : sizeofBootheader ≤ files.origin.length) (uninitialised : Word) :
    pack io files uninitialised =
      if bufsiz < (files.paddings uninitialised).toNat then .undefined
      else .exit 0 (files.image room uninitialised) := by
  have enough : sizeofBootheader ≤ (files.origin.take sizeofBootheader).length := by
    rw [List.length_take_of_le room]
  have field : copyCmdline io.fscanf 0 (files.base room).cmdline files.cmdline =
      packedCmdline (files.base room).cmdline files.cmdline := by
    rw [copyCmdline_eq succeeds.fscanf, (files.base room).cmdline.2]
    rfl
  have written := writeImage_eq succeeds files (files.header room uninitialised)
    (files.paddings uninitialised)
  simp only [pack, succeeds.fopen, succeeds.calloc, succeeds.freadOrigin, fread_none,
    Bool.not_true, Bool.or_self, Bool.false_eq_true, if_false, dif_pos enough, succeeds.stat]
  simp only [PackFiles.base] at field
  simp only [field]
  exact written

/-! ## The length of the image -/

/-- The size of header, kernel and ramdisk. -/
def PackFiles.unpadded (files : PackFiles) : Nat :=
  sizeofBootheader + files.bzImage.length + files.ramdisk.length

/-- The size rounded up to whole sectors. -/
def PackFiles.rounded (files : PackFiles) : Nat :=
  (files.unpadded + (sectorSize - 1)) / sectorSize * sectorSize

/-- A run that exits with 0 has written a header, the kernel, the ramdisk and less
than a sector of 0xff, as many sectors as the header says. A run whose behaviour is
undefined is not well formed. -/
inductive PackOutcome.WellFormed (files : PackFiles) : PackOutcome → Prop where
  | failed {code : Nat} {output : List Byte} : code ≠ 0 → WellFormed files (.exit code output)
  | written {output : List Byte} (hdr : Bootheader) (padding : Nat) (short : padding < sectorSize)
      (parts : output = hdr.toBytes ++ files.bzImage ++ files.ramdisk ++ .replicate padding 0xff#8)
      (sectors : output.length = sectorSize * (hdr.sectors.toNat + 1)) :
      WellFormed files (.exit 0 output)

section Sizes

variable {files : PackFiles} (uninitialised : Word)

/-- The sum of the sizes in machine words is that of the unpadded image. -/
theorem unpadded_word : BitVec.ofNat 32 files.bzImage.length + BitVec.ofNat 32 sizeofBootheader +
    BitVec.ofNat 32 files.ramdisk.length = BitVec.ofNat 32 files.unpadded := by
  rw [← BitVec.ofNat_add, ← BitVec.ofNat_add, PackFiles.unpadded, Nat.add_comm sizeofBootheader]

/-- Wrapping at 32 bits does not change the remainder. -/
theorem unpadded_excess : BitVec.ofNat 32 files.unpadded % BitVec.ofNat 32 sectorSize =
    BitVec.ofNat 32 (files.unpadded % sectorSize) := by
  apply BitVec.eq_of_toNat_eq
  simp only [BitVec.toNat_umod, BitVec.toNat_ofNat, sectorSize, Nat.reducePow, Nat.reduceMod]
  omega

/-- An image that fills its sectors keeps the uninitialised padding. -/
theorem imageSizes_aligned (aligned : files.unpadded % sectorSize = 0) :
    imageSizes files.bzImage.length files.ramdisk.length uninitialised =
      (uninitialised, BitVec.ofNat 32 files.unpadded) := by
  simp only [imageSizes, unpadded_word, unpadded_excess, aligned]
  rfl

/-- Other images are padded to the next sector. -/
theorem imageSizes_unaligned (unaligned : files.unpadded % sectorSize ≠ 0) :
    imageSizes files.bzImage.length files.ramdisk.length uninitialised =
      (BitVec.ofNat 32 (sectorSize - files.unpadded % sectorSize),
        BitVec.ofNat 32 files.rounded) := by
  have bound : files.unpadded % sectorSize < sectorSize := Nat.mod_lt _ (by decide)
  have some : BitVec.ofNat 32 (files.unpadded % sectorSize) > 0#32 := by
    unfold sectorSize at *
    rw [gt_iff_lt, BitVec.lt_def, BitVec.toNat_ofNat, BitVec.toNat_ofNat]
    omega
  have missing : BitVec.ofNat 32 sectorSize - BitVec.ofNat 32 (files.unpadded % sectorSize) =
      BitVec.ofNat 32 (sectorSize - files.unpadded % sectorSize) := by
    apply BitVec.eq_of_toNat_eq
    unfold sectorSize at *
    simp only [BitVec.toNat_sub, BitVec.toNat_ofNat]
    omega
  have total : files.unpadded + (sectorSize - files.unpadded % sectorSize) = files.rounded := by
    unfold PackFiles.rounded sectorSize at *
    omega
  simp only [imageSizes, unpadded_word, unpadded_excess, if_pos some, missing]
  rw [← BitVec.ofNat_add, total]

/-- The total is the size rounded up to a sector. -/
theorem imageSizes_total (small : files.rounded < 2 ^ 32) :
    (imageSizes files.bzImage.length files.ramdisk.length uninitialised).2.toNat =
      files.rounded := by
  by_cases aligned : files.unpadded % sectorSize = 0
  · have exact : files.unpadded = files.rounded := by
      unfold PackFiles.rounded sectorSize at *
      omega
    rw [imageSizes_aligned uninitialised aligned, BitVec.toNat_ofNat, exact,
      Nat.mod_eq_of_lt small]
  · rw [imageSizes_unaligned uninitialised aligned, BitVec.toNat_ofNat, Nat.mod_eq_of_lt small]

/-- What is written as padding completes the last sector, except that nothing is
known about it if the sector is complete. -/
theorem paddings_toNat : (files.paddings uninitialised).toNat =
    if files.unpadded % sectorSize = 0 then uninitialised.toNat
    else files.rounded - files.unpadded := by
  split
  next aligned => rw [PackFiles.paddings, imageSizes_aligned uninitialised aligned]
  next unaligned =>
    rw [PackFiles.paddings, imageSizes_unaligned uninitialised unaligned, BitVec.toNat_ofNat]
    unfold PackFiles.rounded sectorSize at *
    omega

/-- If it is known, it completes the last sector. -/
theorem paddings_known {uninitialised : Word}
    (known : files.unpadded % sectorSize ≠ 0 ∨ uninitialised = 0#32) :
    (files.paddings uninitialised).toNat = files.rounded - files.unpadded := by
  rw [paddings_toNat]
  split
  next aligned =>
    rw [known.resolve_left (not_not.mpr aligned)]
    unfold PackFiles.rounded sectorSize at *
    simp only [BitVec.toNat_ofNat]
    omega
  next => rfl

/-- The padding fits the buffer exactly if the last sector is incomplete or what the local
holds fits. -/
theorem paddings_le_iff {uninitialised : Word} :
    (files.paddings uninitialised).toNat ≤ bufsiz ↔
      files.unpadded % sectorSize ≠ 0 ∨ uninitialised.toNat ≤ bufsiz := by
  rw [paddings_toNat]
  unfold PackFiles.rounded bufsiz sectorSize
  split <;> omega

variable (room : sizeofBootheader ≤ files.origin.length)

/-- The image is the unpadded parts and the padding. -/
theorem image_length : (files.image room uninitialised).length =
    files.unpadded + (files.paddings uninitialised).toNat := by
  rw [PackFiles.image, List.length_append, List.length_append, List.length_append,
    Bootheader.length_toBytes, List.length_replicate, PackFiles.unpadded]

/-- The header announces the rounded size. -/
theorem header_sectors (small : files.rounded < 2 ^ 32) :
    sectorSize * ((files.header room uninitialised).sectors.toNat + 1) = files.rounded := by
  have total := imageSizes_total uninitialised small
  have sectors : (files.header room uninitialised).sectors =
      (imageSizes files.bzImage.length files.ramdisk.length uninitialised).2 /
        BitVec.ofNat 32 sectorSize - 1#32 := rfl
  have header : 13280 ≤ files.unpadded := by
    rw [PackFiles.unpadded, Nat.add_assoc]
    exact Nat.le_add_right 13280 _
  rw [sectors, BitVec.toNat_sub, BitVec.toNat_udiv, total]
  unfold PackFiles.rounded sectorSize at *
  simp only [BitVec.toNat_ofNat, Nat.reducePow, Nat.reduceMod]
  omega

end Sizes

/-- A run whose parts do not fill whole sectors is defined. -/
theorem pack_unaligned {io : PackIo} (succeeds : io.Succeeds) {files : PackFiles}
    (room : sizeofBootheader ≤ files.origin.length) (unaligned : files.unpadded % sectorSize ≠ 0)
    (uninitialised : Word) :
    pack io files uninitialised = .exit 0 (files.image room uninitialised) := by
  have fits : ¬ bufsiz < (files.paddings uninitialised).toNat :=
    Nat.not_lt_of_le (paddings_le_iff.mpr (Or.inl unaligned))
  rw [pack_eq succeeds files room, if_neg fits]

/-- A run whose padding is known writes a well-formed image. -/
theorem pack_wellFormed {io : PackIo} (succeeds : io.Succeeds) {files : PackFiles}
    (small : files.rounded < 2 ^ 32) {uninitialised : Word}
    (known : files.unpadded % sectorSize ≠ 0 ∨ uninitialised = 0#32) :
    (pack io files uninitialised).WellFormed files := by
  by_cases room : sizeofBootheader ≤ files.origin.length
  · have padding := paddings_known known
    have complete : files.unpadded ≤ files.rounded ∧ files.rounded < files.unpadded + sectorSize := by
      unfold PackFiles.rounded sectorSize
      omega
    have fits : ¬ bufsiz < (files.paddings uninitialised).toNat := by
      unfold bufsiz sectorSize at *
      omega
    rw [pack_eq succeeds files room, if_neg fits]
    have length := image_length uninitialised room
    have sectors : (files.image room uninitialised).length =
        sectorSize * ((files.header room uninitialised).sectors.toNat + 1) := by
      rw [header_sectors uninitialised room small]
      omega
    exact .written (files.header room uninitialised) _ (by omega) rfl sectors
  · rw [pack_short succeeds (Nat.lt_of_not_le room)]
    exact .failed Nat.one_ne_zero

/-- The parts of a well-formed image. -/
theorem PackOutcome.WellFormed.parts {files : PackFiles} {output : List Byte}
    (wellFormed : WellFormed files (.exit 0 output)) : ∃ (hdr : Bootheader) (padding : Nat),
      padding < sectorSize ∧
      output = hdr.toBytes ++ files.bzImage ++ files.ramdisk ++ .replicate padding 0xff#8 ∧
      output.length = sectorSize * (hdr.sectors.toNat + 1) := by
  cases wellFormed with
  | failed nonzero => exact absurd rfl nonzero
  | written hdr padding short parts sectors => exact ⟨hdr, padding, short, parts, sectors⟩

/-- A run whose padding is whatever the local held writes too much, if it is
defined at all. -/
theorem pack_not_wellFormed {io : PackIo} (succeeds : io.Succeeds) {files : PackFiles}
    (room : sizeofBootheader ≤ files.origin.length) (small : files.rounded < 2 ^ 32)
    (aligned : files.unpadded % sectorSize = 0) {uninitialised : Word}
    (garbage : uninitialised ≠ 0#32) : ¬ (pack io files uninitialised).WellFormed files := by
  rw [pack_eq succeeds files room]
  split
  · intro wellFormed
    cases wellFormed
  · intro wellFormed
    obtain ⟨hdr, padding, _, same, sectors⟩ := wellFormed.parts
    -- The header of the image is the one that was written, so it counts the rounded size.
    have header : files.header room uninitialised = hdr := by
      simp only [PackFiles.image, List.append_assoc] at same
      exact (Bootheader.append_inj same).1
    rw [← header, header_sectors uninitialised room small, image_length, paddings_toNat,
      if_pos aligned] at sectors
    have exact : files.unpadded = files.rounded := by
      unfold PackFiles.rounded sectorSize at *
      omega
    apply garbage
    apply BitVec.eq_of_toNat_eq
    rw [BitVec.toNat_ofNat]
    omega

/-- Runs without failures for a size below 4 GiB write well-formed images exactly
if the total is no multiple of the sector size or the local happens to hold 0, or
the base image is rejected. -/
theorem pack_wellFormed_iff {io : PackIo} (succeeds : io.Succeeds) (files : PackFiles)
    (small : files.rounded < 2 ^ 32) (uninitialised : Word) :
    (pack io files uninitialised).WellFormed files ↔ files.origin.length < sizeofBootheader ∨
      files.unpadded % sectorSize ≠ 0 ∨ uninitialised = 0#32 := by
  constructor
  · intro wellFormed
    by_contra other
    simp only [not_or, not_lt, not_not] at other
    exact pack_not_wellFormed succeeds other.1 small other.2.1 other.2.2 wellFormed
  · rintro (short | known)
    · rw [pack_short succeeds short]
      exact .failed Nat.one_ne_zero
    · exact pack_wellFormed succeeds small known

/-- Files whose header and kernel fill 26 sectors. -/
def PackFiles.wholeSectors : PackFiles where
  origin := .replicate sizeofBootheader 0#8
  bzImage := .replicate 32 0x90#8
  ramdisk := []
  cmdline := [ascii 'a', ascii '\n']

theorem wholeSectors_unpadded : PackFiles.wholeSectors.unpadded = 13312 := by
  rw [PackFiles.unpadded, PackFiles.wholeSectors, List.length_replicate]
  rfl

theorem wholeSectors_small : PackFiles.wholeSectors.rounded < 2 ^ 32 := by
  rw [PackFiles.rounded, wholeSectors_unpadded]
  decide

theorem pack_wholeSectors_zero :
    (pack .reliable .wholeSectors 0#32).WellFormed .wholeSectors :=
  (pack_wellFormed_iff PackIo.reliable_succeeds .wholeSectors wholeSectors_small 0#32).mpr
    (Or.inr (Or.inr rfl))

/-- If the local holds 1, a stray byte follows the last sector. -/
theorem pack_wholeSectors_one :
    ¬ (pack .reliable .wholeSectors 1#32).WellFormed .wholeSectors := by
  have room : sizeofBootheader ≤ PackFiles.wholeSectors.origin.length := by
    rw [PackFiles.wholeSectors, List.length_replicate]
  have aligned : PackFiles.wholeSectors.unpadded % sectorSize = 0 := by
    rw [wholeSectors_unpadded]
    rfl
  exact pack_not_wellFormed PackIo.reliable_succeeds room wholeSectors_small aligned (by decide)

end T00F.Mkbootimg
