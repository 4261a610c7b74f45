import T00F.Mkbootimg.Pack

/-!
# pack_intel when calls fail

A run of `main` of `pack.c` for any outcomes of the library calls. `PackStops` lists the
failures that it reports, `pack_cases` gives what it writes otherwise, and
`pack_complete_iff` says when an exit code of 0 means that the image is complete. The last
bytes of the output may wait in its buffer until the program exits, and nothing tells
whether they reach the file.
-/

namespace T00F.Mkbootimg

open Systems

variable (io : PackIo) (files : PackFiles) (uninitialised : Word)

/-- What the first copy loop takes of the kernel. -/
def copiedBzImage : List Byte := copied io.freadBzImage io.fwriteBzImage bufsiz 0 files.bzImage

/-- What the second copy loop takes of the ramdisk. -/
def copiedRamdisk : List Byte := copied io.freadRamdisk io.fwriteRamdisk bufsiz 0 files.ramdisk

/-- How many bytes wait in the buffer of the output when a run exits whose calls of
`fwrite` take everything. -/
def PackIo.waiting : Nat :=
  let waiting := io.fwriteHeader.waits 0 sizeofBootheader
  let waiting := waitsAll io.freadBzImage io.fwriteBzImage bufsiz 0 files.bzImage waiting
  let waiting := waitsAll io.freadRamdisk io.fwriteRamdisk bufsiz 0 files.ramdisk waiting
  if files.paddings uninitialised ≠ 0#32 then
    io.fwritePadding.waits waiting (files.paddings uninitialised).toNat
  else waiting

/-- A run that exits with 0 has opened all inputs and written a header that counts the bytes
copied, the kernel, the ramdisk and what completes the last sector. Undefined behaviour is
no error exit. -/
inductive PackOutcome.Complete : PackOutcome → Prop where
  | failed {code : Nat} {output : List Byte} (nonzero : code ≠ 0) : Complete (.exit code output)
  | written {output : List Byte} (hdr : Bootheader) (cmdline : io.fopen .cmdline = true)
      (bzImage : io.fopen .bzImage = true) (ramdisk : io.fopen .ramdisk = true)
      (parts : output = hdr.toBytes ++ files.bzImage ++ files.ramdisk ++
        .replicate (files.rounded - files.unpadded) 0xff#8)
      (bzImageSize : hdr.bzImageSize.toNat = (copiedBzImage io files).length)
      (initrdSize : hdr.initrdSize.toNat = (copiedRamdisk io files).length) :
      Complete (.exit 0 output)

/-- The failures that end a run with an error. The command line is copied from its stream
before the sizes are read, the parts from theirs before the padding is written. -/
inductive PackStops : Prop where
  | origin (failed : io.fopen .origin = false)
  | output (failed : io.fopen .output = false)
  | calloc (failed : io.calloc = false)
  | bootstub (short : (fread io.freadOrigin sizeofBootheader files.origin).length <
      sizeofBootheader)
  | bzImageSize (cmdline : io.fopen .cmdline = true) (failed : io.stat .bzImage = false)
  | ramdiskSize (cmdline : io.fopen .cmdline = true) (failed : io.stat .ramdisk = false)
  | header (cmdline : io.fopen .cmdline = true) {limit : Nat} (short : limit < sizeofBootheader)
      (failed : io.fwriteHeader.limit = some limit)
  | padding (cmdline : io.fopen .cmdline = true) (bzImage : io.fopen .bzImage = true)
      (ramdisk : io.fopen .ramdisk = true)
      (fits : (files.paddings uninitialised).toNat ≤ bufsiz) {limit : Nat}
      (short : limit < (files.paddings uninitialised).toNat)
      (failed : io.fwritePadding.limit = some limit)

/-- Every input is open, neither copy loop loses anything, the sizes fit their fields, the
padding fits the buffer, and the flush at the exit leaves out just what the padding has too
much: nothing if the padding completes the last sector. -/
structure PackCompletes : Prop where
  cmdline : io.fopen .cmdline = true
  bzImage : io.fopen .bzImage = true
  ramdisk : io.fopen .ramdisk = true
  bzImageCopied : Lossless io.freadBzImage io.fwriteBzImage bufsiz 0 files.bzImage
  ramdiskCopied : Lossless io.freadRamdisk io.fwriteRamdisk bufsiz 0 files.ramdisk
  bzImageSmall : files.bzImage.length < 2 ^ 32
  ramdiskSmall : files.ramdisk.length < 2 ^ 32
  fits : (files.paddings uninitialised).toNat ≤ bufsiz
  flushed : unflushed io.flush (io.waiting files uninitialised) =
    (files.paddings uninitialised).toNat - (files.rounded - files.unpadded)

/-! ## The course of a run -/

variable {io files uninitialised}

/-- The output of a run that gets to its end. -/
def writtenOutput (io : PackIo) (files : PackFiles) (file : Bootheader) (paddings : Word) :
    OutputStream :=
  let output := OutputStream.empty.fwrite io.fwriteHeader file.toBytes
  let output := copyAll io.freadBzImage io.fwriteBzImage bufsiz 0 files.bzImage output
  let output := copyAll io.freadRamdisk io.fwriteRamdisk bufsiz 0 files.ramdisk output
  if paddings ≠ 0#32 then output.fwrite io.fwritePadding (.replicate paddings.toNat 0xff#8)
  else output

/-- The output phase for a header that is written. -/
theorem writeImage_runs (file : Bootheader) (paddings : Word)
    (header : ∀ limit < sizeofBootheader, io.fwriteHeader.limit ≠ some limit) :
    writeImage io files file paddings =
      if io.fopen .bzImage = false ∨ io.fopen .ramdisk = false ∨ bufsiz < paddings.toNat then
        .undefined
      else
        .exit (if ∃ limit < paddings.toNat, io.fwritePadding.limit = some limit then 1 else 0)
          ((writtenOutput io files file paddings).flush io.flush) := by
  have complete : ¬ (transfer io.fwriteHeader.limit file.toBytes).length < sizeofBootheader := by
    rw [length_transfer_lt_iff file.length_toBytes]
    rintro ⟨limit, short, failed⟩
    exact header limit short failed
  have padding := @length_transfer_lt_iff io.fwritePadding.limit
    (.replicate paddings.toNat 0xff#8) _ List.length_replicate
  unfold writeImage writtenOutput
  dsimp only
  rw [if_neg complete]
  cases bzImage : io.fopen .bzImage with
  | false => simp
  | true =>
      cases ramdisk : io.fopen .ramdisk with
      | false => simp
      | true =>
          by_cases none : paddings = 0#32
          · subst none
            simp
          · simp only [Bool.not_true, Bool.false_eq_true, if_false, ne_eq, none, not_false_eq_true,
              if_true, false_or, Bool.true_eq_false, padding]
            split
            · rfl
            · split <;> rfl

/-- The ways a run can end. -/
inductive PackRun (io : PackIo) (files : PackFiles) (uninitialised : Word) :
    PackOutcome → Prop where
  | stopped {code : Nat} {output : List Byte} (stops : PackStops io files uninitialised)
      (nonzero : code ≠ 0) : PackRun io files uninitialised (.exit code output)
  | undefined (continues : ¬ PackStops io files uninitialised)
      (misused : io.fopen .cmdline = false ∨ io.fopen .bzImage = false ∨
        io.fopen .ramdisk = false ∨ bufsiz < (files.paddings uninitialised).toNat) :
      PackRun io files uninitialised .undefined
  | written (continues : ¬ PackStops io files uninitialised) (cmdline : io.fopen .cmdline = true)
      (bzImage : io.fopen .bzImage = true) (ramdisk : io.fopen .ramdisk = true)
      (fits : (files.paddings uninitialised).toNat ≤ bufsiz) (file : Bootheader)
      (bzImageSize : file.bzImageSize = BitVec.ofNat 32 files.bzImage.length)
      (initrdSize : file.initrdSize = BitVec.ofNat 32 files.ramdisk.length) :
      PackRun io files uninitialised (.exit 0
        ((writtenOutput io files file (files.paddings uninitialised)).flush io.flush))

/-- The output phase ends a run in one of these ways if nothing before it has. -/
theorem writeImage_cases (early : PackStops io files uninitialised →
      (∃ limit < sizeofBootheader, io.fwriteHeader.limit = some limit) ∨
      (io.fopen .bzImage = true ∧ io.fopen .ramdisk = true ∧
        (files.paddings uninitialised).toNat ≤ bufsiz ∧
        ∃ limit < (files.paddings uninitialised).toNat, io.fwritePadding.limit = some limit))
    (cmdline : io.fopen .cmdline = true) (file : Bootheader)
    (bzImageSize : file.bzImageSize = BitVec.ofNat 32 files.bzImage.length)
    (initrdSize : file.initrdSize = BitVec.ofNat 32 files.ramdisk.length) :
    PackRun io files uninitialised
      (writeImage io files file (files.paddings uninitialised)) := by
  by_cases header : ∃ limit < sizeofBootheader, io.fwriteHeader.limit = some limit
  · have few := (length_transfer_lt_iff file.length_toBytes).mpr header
    obtain ⟨limit, short, failed⟩ := header
    rw [writeImage, if_pos few]
    exact .stopped (.header cmdline short failed) Nat.one_ne_zero
  · rw [writeImage_runs file _ fun limit short failed => header ⟨limit, short, failed⟩]
    split
    next misused =>
      refine .undefined (fun stops => ?_) (Or.inr misused)
      rcases (early stops).resolve_left header with ⟨bzImage, ramdisk, fits, _⟩
      rcases misused with missing | missing | large
      · exact Bool.false_ne_true (missing.symm.trans bzImage)
      · exact Bool.false_ne_true (missing.symm.trans ramdisk)
      · omega
    next proper =>
      simp only [not_or, Bool.not_eq_false, Nat.not_lt] at proper
      obtain ⟨bzImage, ramdisk, fits⟩ := proper
      split
      next padding =>
        obtain ⟨limit, short, failed⟩ := padding
        exact .stopped (.padding cmdline bzImage ramdisk fits short failed) Nat.one_ne_zero
      next padding =>
        refine .written (fun stops => ?_) cmdline bzImage ramdisk fits file bzImageSize initrdSize
        rcases early stops with failed | ⟨_, _, _, failed⟩
        · exact header failed
        · exact padding failed

/-- The failures that can still end a run that has read the header of the base image. -/
theorem PackStops.late (origin : io.fopen .origin = true) (output : io.fopen .output = true)
    (calloc : io.calloc = true)
    (room : sizeofBootheader ≤ (fread io.freadOrigin sizeofBootheader files.origin).length)
    (stops : PackStops io files uninitialised) :
    io.fopen .cmdline = true ∧ (io.stat .bzImage = false ∨ io.stat .ramdisk = false ∨
      (∃ limit < sizeofBootheader, io.fwriteHeader.limit = some limit) ∨
      (io.fopen .bzImage = true ∧ io.fopen .ramdisk = true ∧
        (files.paddings uninitialised).toNat ≤ bufsiz ∧
        ∃ limit < (files.paddings uninitialised).toNat, io.fwritePadding.limit = some limit)) := by
  cases stops with
  | origin failed => exact absurd (failed.symm.trans origin) Bool.false_ne_true
  | output failed => exact absurd (failed.symm.trans output) Bool.false_ne_true
  | calloc failed => exact absurd (failed.symm.trans calloc) Bool.false_ne_true
  | bootstub short => exact absurd room (Nat.not_le_of_lt short)
  | bzImageSize cmdline failed => exact ⟨cmdline, Or.inl failed⟩
  | ramdiskSize cmdline failed => exact ⟨cmdline, Or.inr (Or.inl failed)⟩
  | header cmdline short failed =>
      exact ⟨cmdline, Or.inr (Or.inr (Or.inl ⟨_, short, failed⟩))⟩
  | padding cmdline bzImage ramdisk fits short failed =>
      exact ⟨cmdline, Or.inr (Or.inr (Or.inr ⟨bzImage, ramdisk, fits, _, short, failed⟩))⟩

/-- Every run ends in one of these ways. -/
theorem pack_cases (io : PackIo) (files : PackFiles) (uninitialised : Word) :
    PackRun io files uninitialised (pack io files uninitialised) := by
  unfold pack
  by_cases opened : (!io.fopen .origin || !io.fopen .output) = true
  · rw [if_pos opened]
    rcases Bool.or_eq_true_iff.mp opened with origin | output
    · exact .stopped (.origin (by simpa using origin)) Nat.one_ne_zero
    · exact .stopped (.output (by simpa using output)) Nat.one_ne_zero
  · rw [if_neg opened]
    simp only [Bool.or_eq_true, Bool.not_eq_true', not_or, Bool.not_eq_false] at opened
    cases calloc : io.calloc with
    | false => exact .stopped (.calloc calloc) Nat.one_ne_zero
    | true =>
        rw [if_neg (show ¬ (!true) = true by decide)]
        dsimp only
        split
        next room =>
          -- The failures that are left come behind the copy of the command line.
          have late := @PackStops.late io files uninitialised opened.1 opened.2 calloc room
          cases cmdline : io.fopen .cmdline with
          | false =>
              refine .undefined (fun stops => ?_) (Or.inl cmdline)
              exact Bool.false_ne_true (cmdline.symm.trans (late stops).1)
          | true =>
              rw [if_neg (show ¬ (!true) = true by decide)]
              cases bzImageSize : io.stat .bzImage with
              | false => exact .stopped (.bzImageSize cmdline bzImageSize) Nat.one_ne_zero
              | true =>
                  rw [if_neg (show ¬ (!true) = true by decide)]
                  cases ramdiskSize : io.stat .ramdisk with
                  | false => exact .stopped (.ramdiskSize cmdline ramdiskSize) Nat.one_ne_zero
                  | true =>
                      rw [if_neg (show ¬ (!true) = true by decide)]
                      refine writeImage_cases (fun stops => ?_) cmdline _ rfl rfl
                      rcases (late stops).2 with failed | failed | writing
                      · exact absurd (failed.symm.trans bzImageSize) Bool.false_ne_true
                      · exact absurd (failed.symm.trans ramdiskSize) Bool.false_ne_true
                      · exact writing
        next short => exact .stopped (.bootstub (Nat.lt_of_not_le short)) Nat.one_ne_zero

/-! ## Complete images -/

section Written

variable {file : Bootheader} {paddings : Word}
  (header : transfer io.fwriteHeader.limit file.toBytes = file.toBytes)
  (padding : transfer io.fwritePadding.limit (.replicate paddings.toNat 0xff#8) =
    .replicate paddings.toNat 0xff#8)
include header padding

/-- Whatever the copy loops do, the output starts with what is not lost of the header. -/
theorem writtenOutput_remains : Remains file.toBytes
    (sizeofBootheader + (copiedBzImage io files).length + (copiedRamdisk io files).length +
      paddings.toNat)
    ((writtenOutput io files file paddings).flush io.flush) := by
  have start : Remains file.toBytes sizeofBootheader
      (OutputStream.empty.fwrite io.fwriteHeader file.toBytes).contents := by
    rw [OutputStream.contents_fwrite header, ← file.length_toBytes]
    exact Remains.self _
  have bzImage : Remains file.toBytes _ (copyAll io.freadBzImage io.fwriteBzImage bufsiz 0
    files.bzImage _).contents := copyAll_remains _ 0 _ _ _ start
  have ramdisk : Remains file.toBytes _ (copyAll io.freadRamdisk io.fwriteRamdisk bufsiz 0
    files.ramdisk _).contents := copyAll_remains _ 0 _ _ _ bzImage
  apply Remains.flush
  rw [writtenOutput]
  by_cases none : paddings = 0#32
  · rw [if_neg (not_not.mpr none), none]
    exact ramdisk
  · rw [if_pos none]
    have added := ramdisk.fwrite io.fwritePadding (.replicate paddings.toNat 0xff#8)
    rwa [padding, List.length_replicate] at added

/-- A run that loses nothing before it exits writes everything but what the last flush
leaves out. -/
theorem writtenOutput_flush (same : paddings = files.paddings uninitialised)
    (kernel : Lossless io.freadBzImage io.fwriteBzImage bufsiz 0 files.bzImage)
    (ramdisk : Lossless io.freadRamdisk io.fwriteRamdisk bufsiz 0 files.ramdisk) :
    (writtenOutput io files file paddings).flush io.flush =
      (file.toBytes ++ files.bzImage ++ files.ramdisk ++ .replicate paddings.toNat 0xff#8).take
        (files.unpadded + paddings.toNat -
          unflushed io.flush (io.waiting files uninitialised)) := by
  subst same
  have contents : (writtenOutput io files file (files.paddings uninitialised)).contents =
      file.toBytes ++ files.bzImage ++ files.ramdisk ++
        .replicate (files.paddings uninitialised).toNat 0xff#8 := by
    rw [writtenOutput]
    by_cases none : files.paddings uninitialised = 0#32
    · rw [if_neg (not_not.mpr none), none, contents_copyAll ramdisk, contents_copyAll kernel,
        OutputStream.contents_fwrite header]
      exact (List.append_nil _).symm
    · rw [if_pos none, OutputStream.contents_fwrite padding, contents_copyAll ramdisk,
        contents_copyAll kernel, OutputStream.contents_fwrite header]
      rfl
  have waiting : (writtenOutput io files file (files.paddings uninitialised)).buffer.length =
      io.waiting files uninitialised := by
    rw [writtenOutput, PackIo.waiting, ← file.length_toBytes]
    split
    · rw [OutputStream.length_buffer_fwrite padding, length_buffer_copyAll ramdisk,
        length_buffer_copyAll kernel, OutputStream.length_buffer_fwrite header,
        List.length_replicate]
      rfl
    · rw [length_buffer_copyAll ramdisk, length_buffer_copyAll kernel,
        OutputStream.length_buffer_fwrite header]
      rfl
  rw [OutputStream.flush_eq, waiting, contents]
  congr 2
  simp only [List.length_append, Bootheader.length_toBytes, List.length_replicate]
  rfl

end Written

/-- The sizes of a header are read from the first bytes of an output that lost some. -/
theorem sizes_of_remains {file hdr : Bootheader} {total : Nat} {rest : List Byte}
    (remains : Remains file.toBytes total (hdr.toBytes ++ rest))
    (few : total ≤ (hdr.toBytes ++ rest).length + bufsiz) :
    hdr.bzImageSize = file.bzImageSize ∧ hdr.initrdSize = file.initrdSize := by
  have start := remains.start
  have inside : cmdlineEnd + 8 ≤ (file.toBytes.take (file.toBytes.length -
      (total - (hdr.toBytes ++ rest).length))).length := by
    rw [List.length_take, file.length_toBytes]
    unfold bufsiz at few
    have enough : 2024 ≤ 13280 - (total - (hdr.toBytes ++ rest).length) := by omega
    exact Nat.le_min.mpr ⟨enough, Nat.le_trans enough (Nat.sub_le _ _)⟩
  have stored := (wordOf_of_front (List.take_prefix _ file.toBytes)
    (Nat.le_trans (by omega : cmdlineEnd + 4 ≤ _) inside)).symm.trans
      (wordOf_of_front start (Nat.le_trans (by omega) inside))
  have storedRamdisk := (wordOf_of_front (List.take_prefix _ file.toBytes)
    (Nat.le_trans (by omega : cmdlineEnd + 4 + 4 ≤ _) inside)).symm.trans
      (wordOf_of_front start (Nat.le_trans (by omega) inside))
  rw [bzImageSize_toBytes, ← List.append_nil file.toBytes, bzImageSize_toBytes] at stored
  rw [initrdSize_toBytes, ← List.append_nil file.toBytes, initrdSize_toBytes] at storedRamdisk
  exact ⟨stored.symm, storedRamdisk.symm⟩

/-- The padding is at least what completes the last sector. -/
theorem completes_paddings :
    files.rounded - files.unpadded ≤ (files.paddings uninitialised).toNat := by
  rw [paddings_toNat]
  unfold PackFiles.rounded sectorSize
  split <;> omega

/-- What a run leaves out of the kernel and the ramdisk cannot be made up for by its
padding, the sizes in the header are those of the parts only if they fit 32 bits, and the
flush has to leave out just what the padding has too much. -/
theorem written_complete_iff {file : Bootheader}
    (header : transfer io.fwriteHeader.limit file.toBytes = file.toBytes)
    (padding : transfer io.fwritePadding.limit
      (.replicate (files.paddings uninitialised).toNat 0xff#8) =
        .replicate (files.paddings uninitialised).toNat 0xff#8)
    (bzImageSize : file.bzImageSize = BitVec.ofNat 32 files.bzImage.length)
    (initrdSize : file.initrdSize = BitVec.ofNat 32 files.ramdisk.length)
    (fits : (files.paddings uninitialised).toNat ≤ bufsiz) :
    (∃ hdr : Bootheader,
        (writtenOutput io files file (files.paddings uninitialised)).flush io.flush =
          hdr.toBytes ++ files.bzImage ++ files.ramdisk ++
            .replicate (files.rounded - files.unpadded) 0xff#8 ∧
        hdr.bzImageSize.toNat = (copiedBzImage io files).length ∧
        hdr.initrdSize.toNat = (copiedRamdisk io files).length) ↔
    Lossless io.freadBzImage io.fwriteBzImage bufsiz 0 files.bzImage ∧
      Lossless io.freadRamdisk io.fwriteRamdisk bufsiz 0 files.ramdisk ∧
      files.bzImage.length < 2 ^ 32 ∧ files.ramdisk.length < 2 ^ 32 ∧
      unflushed io.flush (io.waiting files uninitialised) =
        (files.paddings uninitialised).toNat - (files.rounded - files.unpadded) := by
  obtain ⟨kernelBound, kernelWhole⟩ :=
    length_copied io.freadBzImage io.fwriteBzImage bufsiz 0 files.bzImage
  obtain ⟨ramdiskBound, ramdiskWhole⟩ :=
    length_copied io.freadRamdisk io.fwriteRamdisk bufsiz 0 files.ramdisk
  have enough := @completes_paddings files uninitialised
  have unpadded : files.unpadded = 13280 + files.bzImage.length + files.ramdisk.length := rfl
  have kernelField : file.bzImageSize.toNat = files.bzImage.length % 2 ^ 32 := by
    rw [bzImageSize, BitVec.toNat_ofNat]
  have ramdiskField : file.initrdSize.toNat = files.ramdisk.length % 2 ^ 32 := by
    rw [initrdSize, BitVec.toNat_ofNat]
  constructor
  · rintro ⟨hdr, parts, kernelSize, ramdiskSize⟩
    have remains : Remains file.toBytes _ ((writtenOutput io files file
        (files.paddings uninitialised)).flush io.flush) := writtenOutput_remains header padding
    have total : ((writtenOutput io files file (files.paddings uninitialised)).flush
        io.flush).length = files.unpadded + (files.rounded - files.unpadded) := by
      rw [parts]
      simp only [List.length_append, Bootheader.length_toBytes, List.length_replicate]
      rfl
    have bound := remains.bound
    have few : sizeofBootheader + (copiedBzImage io files).length +
        (copiedRamdisk io files).length + (files.paddings uninitialised).toNat ≤
          ((writtenOutput io files file (files.paddings uninitialised)).flush
            io.flush).length + bufsiz := by
      rw [total, unpadded, copiedBzImage, copiedRamdisk]
      have header : sizeofBootheader = 13280 := rfl
      omega
    rw [parts, List.append_assoc, List.append_assoc] at remains few
    obtain ⟨sameBzImage, sameInitrd⟩ := sizes_of_remains remains few
    rw [sameBzImage, kernelField, copiedBzImage] at kernelSize
    rw [sameInitrd, ramdiskField, copiedRamdisk] at ramdiskSize
    rw [total, unpadded, copiedBzImage, copiedRamdisk] at bound
    have size : sizeofBootheader = 13280 := rfl
    unfold bufsiz at fits
    have kernel := kernelWhole.mp (by omega)
    have ramdisk := ramdiskWhole.mp (by omega)
    rw [writtenOutput_flush header padding rfl kernel ramdisk, List.length_take] at total
    simp only [List.length_append, Bootheader.length_toBytes, List.length_replicate] at total
    exact ⟨kernel, ramdisk, by omega, by omega, by omega⟩
  · rintro ⟨kernel, ramdisk, kernelSmall, ramdiskSmall, flushed⟩
    have length : (file.toBytes ++ files.bzImage ++ files.ramdisk).length = files.unpadded := by
      simp only [List.length_append, Bootheader.length_toBytes]
      rfl
    have left : files.unpadded + (files.paddings uninitialised).toNat -
        ((files.paddings uninitialised).toNat - (files.rounded - files.unpadded)) =
          files.unpadded + (files.rounded - files.unpadded) := by omega
    refine ⟨file, ?_, ?_, ?_⟩
    · rw [writtenOutput_flush header padding rfl kernel ramdisk, flushed, left, ← length,
        List.take_length_add_append, List.take_replicate, length, Nat.min_eq_left enough]
    · rw [kernelField, Nat.mod_eq_of_lt kernelSmall, copiedBzImage, copied_lossless kernel]
    · rw [ramdiskField, Nat.mod_eq_of_lt ramdiskSmall, copiedRamdisk, copied_lossless ramdisk]

/-- The parts of a complete image. -/
theorem PackOutcome.Complete.parts {outcome : PackOutcome} (promised : outcome.Complete io files)
    {output : List Byte} (exited : outcome = .exit 0 output) : ∃ hdr : Bootheader,
      output = hdr.toBytes ++ files.bzImage ++ files.ramdisk ++
        .replicate (files.rounded - files.unpadded) 0xff#8 ∧
      hdr.bzImageSize.toNat = (copiedBzImage io files).length ∧
      hdr.initrdSize.toNat = (copiedRamdisk io files).length := by
  cases promised with
  | failed nonzero =>
      cases exited
      exact absurd rfl nonzero
  | written hdr _ _ _ parts bzImageSize initrdSize =>
      cases exited
      exact ⟨hdr, parts, bzImageSize, initrdSize⟩

/-- Whatever the library calls do, an exit code of 0 means a complete image exactly if one
of the failures that are checked ends the run, or everything is opened, copied and of a
size that the header can hold, and the last flush leaves out nothing of the image. -/
theorem pack_complete_iff (io : PackIo) (files : PackFiles) (uninitialised : Word) :
    (pack io files uninitialised).Complete io files ↔
      PackStops io files uninitialised ∨ PackCompletes io files uninitialised := by
  have run := pack_cases io files uninitialised
  generalize pack io files uninitialised = outcome at run ⊢
  cases run with
  | stopped stops nonzero => exact iff_of_true (.failed nonzero) (Or.inl stops)
  | undefined continues misused =>
      refine iff_of_false nofun ?_
      rintro (stops | completes)
      · exact continues stops
      · rcases misused with missing | missing | missing | large
        · exact Bool.false_ne_true (missing.symm.trans completes.cmdline)
        · exact Bool.false_ne_true (missing.symm.trans completes.bzImage)
        · exact Bool.false_ne_true (missing.symm.trans completes.ramdisk)
        · exact Nat.lt_irrefl _ (Nat.lt_of_lt_of_le large completes.fits)
  | written continues cmdline bzImage ramdisk fits file bzImageSize initrdSize =>
      have header := transfer_whole file.length_toBytes fun few short failed =>
        continues (.header cmdline short failed)
      have padding : transfer io.fwritePadding.limit
          (.replicate (files.paddings uninitialised).toNat 0xff#8) = _ :=
        transfer_whole List.length_replicate fun few short failed =>
          continues (.padding cmdline bzImage ramdisk fits short failed)
      have complete := written_complete_iff header padding bzImageSize initrdSize fits
      constructor
      · intro promised
        obtain ⟨hdr, parts⟩ := promised.parts rfl
        obtain ⟨kernel, rest⟩ := complete.mp ⟨hdr, parts⟩
        exact Or.inr ⟨cmdline, bzImage, ramdisk, kernel, rest.1, rest.2.1, rest.2.2.1, fits,
          rest.2.2.2⟩
      · intro condition
        have completes := condition.resolve_left continues
        obtain ⟨hdr, parts, kernelSize, ramdiskSize⟩ := complete.mpr ⟨completes.bzImageCopied,
          completes.ramdiskCopied, completes.bzImageSmall, completes.ramdiskSmall,
          completes.flushed⟩
        exact .written hdr cmdline bzImage ramdisk parts kernelSize ramdiskSize

/-- The disk takes the first blocks of the header; what waits in the buffer finds no room
when the program exits. -/
def PackIo.fullDisk : PackIo :=
  { PackIo.reliable with fwriteHeader := ⟨none, 12288, false⟩, flush := some 0 }

theorem fullDisk_continues : ¬ PackStops .fullDisk .wholeSectors 0#32 := by
  intro stops
  cases stops with
  | bootstub short =>
      rw [PackFiles.wholeSectors, show PackIo.fullDisk.freadOrigin = none from rfl, fread_none,
        List.length_take, List.length_replicate] at short
      exact Nat.lt_irrefl _ (Nat.lt_of_le_of_lt (Nat.le_of_eq (Nat.min_self _).symm) short)
  | origin failed => cases failed
  | output failed => cases failed
  | calloc failed => cases failed
  | bzImageSize _ failed => cases failed
  | ramdiskSize _ failed => cases failed
  | header _ _ failed => cases failed
  | padding _ _ _ _ _ failed => cases failed

theorem wholeSectors_paddings : PackFiles.wholeSectors.paddings 0#32 = 0#32 := by
  have aligned : PackFiles.wholeSectors.unpadded % sectorSize = 0 := by
    rw [wholeSectors_unpadded]
    rfl
  rw [PackFiles.paddings, imageSizes_aligned 0#32 aligned]

/-- The end of the header and the kernel wait for the exit. -/
theorem fullDisk_waiting : PackIo.fullDisk.waiting .wholeSectors 0#32 = 1024 := by
  have kernel : waitsAll PackIo.fullDisk.freadBzImage PackIo.fullDisk.fwriteBzImage bufsiz 0
      PackFiles.wholeSectors.bzImage 992 = 1024 := by
    have read : fread none bufsiz (.replicate 32 0x90#8) = .replicate 32 0x90#8 := rfl
    rw [waitsAll, show PackIo.fullDisk.freadBzImage 0 = none from rfl, PackFiles.wholeSectors, read,
      if_neg (by rw [List.length_replicate]; decide), List.drop_length, waitsAll,
      if_pos (fread_ended 1), List.length_replicate]
    rfl
  have ramdisk : waitsAll PackIo.fullDisk.freadRamdisk PackIo.fullDisk.fwriteRamdisk bufsiz 0
      PackFiles.wholeSectors.ramdisk 1024 = 1024 := by
    rw [waitsAll, PackFiles.wholeSectors, if_pos (fread_ended 0)]
  rw [PackIo.waiting, wholeSectors_paddings,
    show PackIo.fullDisk.fwriteHeader.waits 0 sizeofBootheader = 992 from rfl, kernel, ramdisk]
  rfl

/-- Every call succeeds, the exit code is 0, and the image has lost its kernel. -/
theorem pack_fullDisk_incomplete :
    ¬ (pack .fullDisk .wholeSectors 0#32).Complete .fullDisk .wholeSectors := by
  intro promised
  have run := pack_cases .fullDisk .wholeSectors 0#32
  generalize pack .fullDisk .wholeSectors 0#32 = outcome at run promised
  cases run with
  | stopped stops _ => exact fullDisk_continues stops
  | undefined _ _ => cases promised
  | written _ _ _ _ fits file bzImageSize initrdSize =>
      obtain ⟨hdr, parts⟩ := promised.parts rfl
      have complete := @written_complete_iff .fullDisk .wholeSectors 0#32 file rfl rfl bzImageSize
        initrdSize fits
      obtain ⟨_, _, _, _, flushed⟩ := complete.mp ⟨hdr, parts⟩
      rw [fullDisk_waiting, wholeSectors_paddings] at flushed
      exact absurd flushed (by decide)

end T00F.Mkbootimg
