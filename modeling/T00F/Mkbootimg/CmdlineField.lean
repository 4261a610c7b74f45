import T00F.Mkbootimg.Wrap

/-!
# The command line in the header

Where the command line of `mkbootimg-wrap` ends up in the image. The wrapper limits it in
characters and adds its newline afterwards, the field is counted in bytes;
`wrap_holdsLine_iff` says for which lines the field holds the line as a string.
-/

namespace T00F.Mkbootimg

open Systems

/-- A field holds a line as a string: the line, a newline and at least one NUL, so that a
reader that stops at the first NUL gets the line. -/
structure HoldsLine (field line : List Byte) : Prop where
  terminated : ∃ count > 0, field = line ++ ascii '\n' :: .replicate count 0#8
  read : cString field = line ++ [ascii '\n']

/-- The bytes of the command line that the wrapper packs. -/
def packedLine (locale : Locale) (options : Options) : List Byte :=
  (commandSubstitution (sed locale options.cmdline)).flatMap locale.encode

/-- The field that the file of the wrapper fills. -/
theorem truncate_holdsLine_iff (line : List Byte) :
    HoldsLine (truncate cmdlineSize (line ++ [ascii '\n'])) line ↔
      line.length ≤ 1022 ∧ 0#8 ∉ line := by
  have length : (line ++ [ascii '\n']).length = line.length + 1 := List.length_append
  constructor
  · rintro ⟨⟨count, positive, field⟩, read⟩
    have total := congrArg List.length field
    rw [length_truncate, List.length_append, List.length_cons, List.length_replicate] at total
    unfold cmdlineSize at total
    refine ⟨by omega, fun nul => ?_⟩
    have printable : 0#8 ∈ cString (truncate cmdlineSize (line ++ [ascii '\n'])) := by
      rw [read]
      exact List.mem_append_left _ nul
    exact absurd (List.mem_takeWhile_imp printable) (by decide)
  · rintro ⟨short, noNul⟩
    have field : truncate cmdlineSize (line ++ [ascii '\n']) =
        line ++ ascii '\n' :: .replicate (cmdlineSize - (line.length + 1)) 0#8 := by
      have fits : (line ++ [ascii '\n']).length ≤ cmdlineSize := by
        rw [length]
        unfold cmdlineSize
        omega
      rw [truncate, List.take_of_length_le fits, length, List.append_assoc]
      rfl
    refine ⟨⟨_, by unfold cmdlineSize; omega, field⟩, ?_⟩
    have room : cmdlineSize - (line.length + 1) ≠ 0 := by
      unfold cmdlineSize
      omega
    obtain ⟨count, some⟩ := Nat.exists_eq_succ_of_ne_zero room
    have printable : ∀ byte ∈ line, (byte != 0#8) = true := by
      intro byte member
      rw [bne_iff_ne]
      rintro rfl
      exact noNul member
    rw [field, cString, List.takeWhile_append_of_pos printable, some, List.replicate_succ]
    rfl

/-- The field of an image holds the file of the command line, if that fills it. -/
theorem pack_cmdline {io : PackIo} (succeeds : io.Succeeds) {files : PackFiles}
    (full : files.cmdline.length = cmdlineSize) {uninitialised : Word} {image : List Byte}
    (packed : pack io files uninitialised = .exit 0 image) :
    slice image cmdlineStart cmdlineSize = files.cmdline := by
  by_cases room : sizeofBootheader ≤ files.origin.length
  · rw [pack_eq succeeds files room] at packed
    split at packed
    · cases packed
    · cases packed
      have field := cmdline_toBytes (files.header room uninitialised) (files.bzImage ++
        (files.ramdisk ++ .replicate (files.paddings uninitialised).toNat 0xff#8))
      have line : (files.header room uninitialised).cmdline =
        packedCmdline (files.base room).cmdline files.cmdline := rfl
      have covered : (files.base room).cmdline.1.drop files.cmdline.length = [] :=
        List.drop_of_length_le (by rw [(files.base room).cmdline.2, full])
      rw [line, packedCmdline_val, covered, List.append_nil,
        List.take_of_length_le (Nat.le_of_eq full)] at field
      simp only [← List.append_assoc] at field
      exact field
  · rw [pack_short succeeds (Nat.lt_of_not_le room)] at packed
    cases packed

/-- A request that is accepted and packed packs the file of its command line. -/
theorem wrap_field {locale : Locale} {tree : Tree} {io : PackIo} (succeeds : io.Succeeds)
    {fuel : Nat} {args : List Text} {options : Options}
    (long : ['-', '-'].isPrefixOf (args.headD []) = true)
    (parsed : parseOptions fuel args = some options) {paddings : Word} {output : Text}
    {image : List Byte}
    (packed : wrap locale tree io fuel args paddings = some (.packed output (.exit 0 image))) :
    slice image cmdlineStart cmdlineSize =
      truncate cmdlineSize (packedLine locale options ++ [ascii '\n']) := by
  have newline : locale.encode '\n' = [ascii '\n'] := locale.encode_ascii '\n' (by decide)
  simp only [wrap, long, parsed, if_true] at packed
  split at packed
  · cases packed
  · split at packed
    · cases packed
    · obtain ⟨_, packed⟩ := WrapOutcome.packed.inj (Option.some.inj packed)
      have line : echo locale (commandSubstitution (sed locale options.cmdline)) =
          packedLine locale options ++ [ascii '\n'] := by
        rw [echo, List.flatMap_append, List.flatMap_singleton, newline]
        rfl
      rw [line] at packed
      exact pack_cmdline succeeds (length_truncate _ _) packed

/-! ## Lines of one word -/

/-- `--kernel k --ramdisk r --output o --cmdline` and a line. -/
def lineArgs (line : Text) : List Text :=
  [kernelOption, ['k'], ramdiskOption, ['r'], outputOption, ['o'], cmdlineOption, line]

theorem lineArgs_parsed (line : Text) :
    parseOptions 5 (lineArgs line) = some ⟨['k'], ['r'], ['o'], line⟩ := rfl

/-- `count` letters and the variant that the build appends. -/
def letterLine (count : Nat) : Text :=
  joinWords [.replicate count 'a'] ++ ' ' :: (variantKey ++ ['u', 's', 'e', 'r'])

theorem letters_token {count : Nat} (some : 0 < count) : CmdlineToken (.replicate count 'a') where
  nonempty empty := by
    have length := congrArg List.length empty
    rw [List.length_replicate] at length
    exact Nat.ne_of_gt some length
  chars char member := by
    rw [List.eq_of_mem_replicate member]
    rfl
  noVariant := by
    intro variant
    have first : 'b' ∈ List.replicate count 'a' := variant.subset List.mem_cons_self
    exact absurd (List.eq_of_mem_replicate first) (by decide)

/-- A line of fewer than 1024 letters is packed. -/
theorem letterLine_packed {count : Nat} (some : 0 < count) (short : count < 1024) :
    packedLine .c ⟨['k'], ['r'], ['o'], letterLine count⟩ = .replicate count (ascii 'a') ∧
      ∃ image, wrap .c (.filled 0#8) .reliable 5 (lineArgs (letterLine count)) 0#32 =
        .some (.packed ['o'] (.exit 0 image)) := by
  have tokens : ∀ word ∈ [List.replicate count 'a'], CmdlineToken word := by
    intro word member
    rw [List.mem_singleton.mp member]
    exact letters_token some
  have filtered : commandSubstitution (sed .c (letterLine count)) = .replicate count 'a' :=
    (commandSubstitution_plain tokens (by decide) user_noSpace).trans List.intercalate_singleton
  constructor
  · have bytes : (List.replicate count 'a').flatMap Locale.c.encode =
        (List.replicate count 'a').map ascii := List.map_eq_flatMap.symm
    rw [packedLine, filtered, bytes, List.map_replicate]
  · have room : sizeofBootheader ≤ (List.replicate sizeofBootheader 0#8).length :=
      Nat.le_of_eq List.length_replicate.symm
    let files : PackFiles := ⟨.replicate sizeofBootheader 0#8, [0x4d#8], [],
      truncate 1024 (echo .c (.replicate count 'a'))⟩
    have unaligned : files.unpadded % sectorSize ≠ 0 := by
      have unpadded : files.unpadded = 13281 := rfl
      rw [unpadded]
      decide
    have packed := pack_unaligned PackIo.reliable_succeeds room unaligned 0#32
    have accepted : ¬ 1024 ≤ (List.replicate count 'a').length := by
      rw [List.length_replicate]
      omega
    have base : (Tree.filled 0#8).baseImg ['k'] = .replicate sizeofBootheader 0#8 :=
      filled_boot 0#8
    refine ⟨files.image room 0#32, ?_⟩
    have long : ['-', '-'].isPrefixOf ((lineArgs (letterLine count)).headD []) = true := rfl
    simp only [wrap, long, lineArgs_parsed, filtered, base, if_neg accepted, if_true]
    exact congrArg (fun outcome => Option.some (WrapOutcome.packed ['o'] outcome)) packed

/-! ## Terminated fields -/

/-- The field of the image holds the command line of an accepted request as a string
exactly if its bytes, without the newline, are at most 1022 and no NUL. -/
theorem wrap_holdsLine_iff {locale : Locale} {tree : Tree} {io : PackIo} (succeeds : io.Succeeds)
    {fuel : Nat} {args : List Text} {options : Options}
    (long : ['-', '-'].isPrefixOf (args.headD []) = true)
    (parsed : parseOptions fuel args = some options) {paddings : Word} {output : Text}
    {image : List Byte}
    (packed : wrap locale tree io fuel args paddings = some (.packed output (.exit 0 image))) :
    HoldsLine (slice image cmdlineStart cmdlineSize) (packedLine locale options) ↔
      (packedLine locale options).length ≤ 1022 ∧ 0#8 ∉ packedLine locale options := by
  rw [wrap_field succeeds long parsed packed]
  exact truncate_holdsLine_iff _

theorem wrap_holdsLine_short : ∃ image,
    wrap .c (.filled 0#8) .reliable 5 (lineArgs (letterLine 3)) 0#32 =
      some (.packed ['o'] (.exit 0 image)) ∧
    HoldsLine (slice image cmdlineStart cmdlineSize) (.replicate 3 (ascii 'a')) := by
  obtain ⟨line, image, packed⟩ := @letterLine_packed 3 (by decide) (by decide)
  have holds := wrap_holdsLine_iff PackIo.reliable_succeeds rfl (lineArgs_parsed _) packed
  rw [line] at holds
  exact ⟨image, packed, holds.mpr (by decide)⟩

/-- A line of 1023 letters is accepted, and its newline is the last byte of the field. -/
theorem wrap_unterminated : ∃ image,
    wrap .c (.filled 0#8) .reliable 5 (lineArgs (letterLine 1023)) 0#32 =
      some (.packed ['o'] (.exit 0 image)) ∧
    ¬ HoldsLine (slice image cmdlineStart cmdlineSize) (.replicate 1023 (ascii 'a')) := by
  obtain ⟨line, image, packed⟩ := @letterLine_packed 1023 (by decide) (by decide)
  refine ⟨image, packed, ?_⟩
  rw [wrap_field PackIo.reliable_succeeds rfl (lineArgs_parsed _) packed, line,
    truncate_holdsLine_iff, List.length_replicate]
  intro fits
  exact absurd fits.1 (by decide)

end T00F.Mkbootimg
