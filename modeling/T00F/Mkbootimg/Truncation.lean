import T00F.Mkbootimg.Unpack

/-!
# Truncated images

What `unpack_intel` does with any sequence of bytes. `unpack_complete` splits an image
that holds what its two lengths count. Of the shorter ones it rejects only those that end
within the lengths themselves, as `unpack_ends_iff` says; on others a copy loop waits for
bytes that never come.
-/

namespace T00F.Mkbootimg

open Systems

/-- The image holds the header and behind it as many bytes as the two lengths count. -/
def HoldsParts (image : List Byte) : Prop :=
  sizeofBootheader + (wordOf image cmdlineEnd).toNat + (wordOf image (cmdlineEnd + 4)).toNat ≤
    image.length

/-- A run with enough fuel ends with this outcome. -/
def UnpackEnds (io : UnpackIo) (image : List Byte) (outcome : UnpackOutcome) : Prop :=
  ∃ enough, ∀ fuel ≥ enough, unpack io fuel image = some outcome

/-- An image that holds its parts is split into them, any other is an error. -/
inductive SplitOrRejected (image : List Byte) : UnpackOutcome → Prop where
  | split (complete : HoldsParts image) :
      SplitOrRejected image (.exit 0
        (slice image sizeofBootheader (wordOf image cmdlineEnd).toNat)
        (slice image (sizeofBootheader + (wordOf image cmdlineEnd).toNat)
          (wordOf image (cmdlineEnd + 4)).toNat)
        (slice image cmdlineStart cmdlineSize))
  | rejected {code : Nat} {bzImage ramdisk cmdline : List Byte} (truncated : ¬ HoldsParts image)
      (nonzero : code ≠ 0) : SplitOrRejected image (.exit code bzImage ramdisk cmdline)

/-- Only an image that holds its parts may be accepted. -/
theorem SplitOrRejected.complete {image : List Byte} {outcome : UnpackOutcome}
    (promised : SplitOrRejected image outcome) {bzImage ramdisk cmdline : List Byte}
    (accepted : outcome = .exit 0 bzImage ramdisk cmdline) : HoldsParts image := by
  cases promised with
  | split complete => exact complete
  | rejected _ nonzero =>
      cases accepted
      exact absurd rfl nonzero

section Runs

variable {io : UnpackIo} (succeeds : io.Succeeds) {fuel : Nat} {image : List Byte}
include succeeds

/-- An image that holds its parts is split. -/
theorem unpack_complete (complete : HoldsParts image) (fueled : image.length < fuel) :
    unpack io fuel image = some (.exit 0
      (slice image sizeofBootheader (wordOf image cmdlineEnd).toNat)
      (slice image (sizeofBootheader + (wordOf image cmdlineEnd).toNat)
        (wordOf image (cmdlineEnd + 4)).toNat)
      (slice image cmdlineStart cmdlineSize)) := by
  unfold HoldsParts at complete
  have header : sizeofBootheader ≤ image.length := by omega
  have kernel : (wordOf image cmdlineEnd).toNat ≤ (image.drop sizeofBootheader).length := by
    rw [List.length_drop]
    omega
  have initrd : (wordOf image (cmdlineEnd + 4)).toNat ≤
      (image.drop (sizeofBootheader + (wordOf image cmdlineEnd).toNat)).length := by
    rw [List.length_drop]
    omega
  have room : cmdlineEnd + 8 ≤ image.length := Nat.le_trans (by decide) header
  have line : cmdlineSize < fuel :=
    Nat.lt_of_le_of_lt (Nat.le_trans (by decide) header) fueled
  obtain ⟨cmdline, contents, run⟩ := unpack_eq succeeds room line
  rw [run, unpackBzImage_eq succeeds cmdline kernel initrd (by omega) (by omega), contents]
  rfl

/-- Without a whole command line the first loop does not end. -/
theorem unpack_noCmdline (short : image.length < cmdlineEnd) : unpack io fuel image = none := by
  have missing : (image.drop cmdlineStart).length < cmdlineSize := by
    have early : image.length < 2016 := short
    rw [List.length_drop]
    unfold cmdlineStart cmdlineSize
    omega
  simp only [unpack, succeeds.fopen, succeeds.fseek, copyMissing_short _ _ _ _ missing,
    Bool.not_true, Bool.or_self, Bool.false_eq_true, if_false]

/-- Without both lengths the image is rejected. -/
theorem unpack_noLengths (line : cmdlineEnd ≤ image.length) (short : image.length < cmdlineEnd + 8)
    (fueled : cmdlineSize < fuel) :
    unpack io fuel image = some (.exit 1 [] [] (slice image cmdlineStart cmdlineSize)) := by
  obtain ⟨cmdline, run, contents⟩ := unpackCmdline_eq succeeds line fueled
  simp only [unpack, succeeds.fopen, succeeds.fseek, run, succeeds.freadBzImageLen,
    succeeds.freadRamdiskLen, succeeds.exit_eq, contents, OutputStream.contents_empty, fread_none,
    List.length_take, List.length_drop, Bool.not_true, Bool.or_self, Bool.false_eq_true, if_false]
  split
  · rfl
  · rw [if_pos (by omega)]

/-- With both lengths but not their bytes, a loop does not end, unless there is nothing to
copy. -/
theorem unpack_noParts (room : cmdlineEnd + 8 ≤ image.length) (truncated : ¬ HoldsParts image)
    (fueled : cmdlineSize < fuel) :
    unpack io fuel image = none ∨
      unpack io fuel image = some (.exit 0 [] [] (slice image cmdlineStart cmdlineSize)) := by
  unfold HoldsParts at truncated
  obtain ⟨cmdline, contents, run⟩ := unpack_eq succeeds room fueled
  rw [run]
  by_cases shortRamdisk : (image.drop (sizeofBootheader + (wordOf image cmdlineEnd).toNat)).length <
      (wordOf image (cmdlineEnd + 4)).toNat
  · left
    simp only [unpackBzImage, unpackRamdisk, succeeds.fseek, succeeds.fopen,
      copyMissing_short _ _ _ _ shortRamdisk, Bool.not_true, Bool.false_and, Bool.false_eq_true,
      if_false]
    split <;> rfl
  · by_cases shortKernel : (image.drop sizeofBootheader).length < (wordOf image cmdlineEnd).toNat
    · left
      simp only [unpackBzImage, succeeds.fseek, succeeds.fopen,
        copyMissing_short _ _ _ _ shortKernel, Bool.not_true, Bool.false_and, Bool.false_eq_true,
        if_false]
    · -- Only an incomplete header is left, behind which nothing is to be copied.
      right
      rw [List.length_drop] at shortRamdisk shortKernel
      have noKernel : (wordOf image cmdlineEnd).toNat = 0 := by omega
      have noRamdisk : (wordOf image (cmdlineEnd + 4)).toNat = 0 := by omega
      have nothing : ∀ readLimit write stream,
          copyMissing readLimit write bufsiz fuel 0 stream = some .empty := by
        intro readLimit write stream
        obtain ⟨less, rfl⟩ := Nat.exists_eq_add_one_of_ne_zero (show fuel ≠ 0 by omega)
        rw [copyMissing, loop_exit rfl, Option.map_some]
      simp only [unpackBzImage, unpackRamdisk, succeeds.fseek, succeeds.fopen, noKernel, noRamdisk,
        nothing, succeeds.exit_eq, contents, OutputStream.contents_empty, Bool.not_true,
        Bool.false_and, Bool.false_eq_true, if_false]

end Runs

/-- Splitting an image that holds its parts and rejecting any other, always after finitely
many steps, is what happens exactly to the images that hold their parts and to those that
end within the two lengths. -/
theorem unpack_ends_iff {io : UnpackIo} (succeeds : io.Succeeds) (image : List Byte) :
    (∃ outcome, UnpackEnds io image outcome ∧ SplitOrRejected image outcome) ↔
      HoldsParts image ∨ (cmdlineEnd ≤ image.length ∧ image.length < cmdlineEnd + 8) := by
  constructor
  · rintro ⟨outcome, ⟨enough, ends⟩, promised⟩
    by_contra other
    rw [not_or] at other
    obtain ⟨truncated, outside⟩ := other
    rcases Nat.lt_or_ge image.length cmdlineEnd with short | line
    · cases (unpack_noCmdline succeeds short).symm.trans (ends enough (Nat.le_refl _))
    · have room : cmdlineEnd + 8 ≤ image.length := by omega
      have run := ends (max enough (cmdlineSize + 1)) (Nat.le_max_left _ _)
      have fueled : cmdlineSize < max enough (cmdlineSize + 1) :=
        Nat.lt_of_lt_of_le (Nat.lt_succ_self _) (Nat.le_max_right _ _)
      rcases unpack_noParts succeeds room truncated fueled with endless | accepted
      · cases endless.symm.trans run
      · have accepted := Option.some.inj (run.symm.trans accepted)
        exact truncated (promised.complete accepted)
  · rintro (complete | ⟨line, short⟩)
    · exact ⟨_, ⟨image.length + 1, fun _ fueled => unpack_complete succeeds complete fueled⟩,
        .split complete⟩
    · have truncated : ¬ HoldsParts image := by
        intro complete
        unfold HoldsParts at complete
        have header : 13280 ≤ image.length := Nat.le_trans
          (Nat.le_trans (Nat.le_add_right _ _) (Nat.le_add_right _ _)) complete
        have early : image.length < 2024 := short
        omega
      exact ⟨_, ⟨cmdlineSize + 1, fun _ fueled => unpack_noLengths succeeds line short fueled⟩,
        .rejected truncated Nat.one_ne_zero⟩

/-- An image with a kernel, a ramdisk and a padding is split. -/
theorem unpack_ends_small : ∃ outcome,
    UnpackEnds .reliable (PackFiles.small.image small_room 7#32) outcome ∧
      SplitOrRejected (PackFiles.small.image small_room 7#32) outcome := by
  refine (unpack_ends_iff UnpackIo.reliable_succeeds _).mpr (Or.inl ?_)
  rw [HoldsParts, image_length, PackFiles.image, List.append_assoc, List.append_assoc,
    bzImageSize_toBytes, initrdSize_toBytes, PackFiles.unpadded]
  exact Nat.le_add_right _ _

/-- On an empty file the first loop does not end. -/
theorem unpack_endless : ¬ ∃ outcome,
    UnpackEnds .reliable [] outcome ∧ SplitOrRejected [] outcome := by
  rintro ⟨outcome, ⟨enough, ends⟩, _⟩
  have endless := @unpack_noCmdline .reliable UnpackIo.reliable_succeeds enough [] (by decide)
  cases endless.symm.trans (ends enough (Nat.le_refl _))

end T00F.Mkbootimg
