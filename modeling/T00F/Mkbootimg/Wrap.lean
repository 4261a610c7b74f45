import T00F.Mkbootimg.Filter
import T00F.Mkbootimg.Pack

/-!
# mkbootimg-wrap

The wrapper that the build calls in place of `mkbootimg`, and the direct rule of
`mkbootimg.mk`. Both end in a run of `pack_intel`; they differ in the file from
which it takes the command line. `wrap_plain` gives that file for a line of plain
words with a variant appended, `wrap_directRule_iff` compares the two images.
-/

namespace T00F.Mkbootimg

open Systems

/-- The value of a shell variable or argument. -/
abbrev Text := List Char

/-- The variables that the option loop sets. -/
structure Options where
  kernel : Text
  ramdisk : Text
  output : Text
  cmdline : Text
deriving DecidableEq, Repr

/-- The positional parameters and the variables during the option loop. -/
structure Parsing where
  args : List Text
  options : Options
deriving DecidableEq, Repr

/-- `--kernel` -/
def kernelOption : Text := ['-', '-', 'k', 'e', 'r', 'n', 'e', 'l']

/-- `--ramdisk` -/
def ramdiskOption : Text := ['-', '-', 'r', 'a', 'm', 'd', 'i', 's', 'k']

/-- `--output` -/
def outputOption : Text := ['-', '-', 'o', 'u', 't', 'p', 'u', 't']

/-- `--cmdline` -/
def cmdlineOption : Text := ['-', '-', 'c', 'm', 'd', 'l', 'i', 'n', 'e']

/-- `--second|--tags-addr|--ramdisk_offset|--dt|--pagesize|--base` -/
def ignoredOptions : List Text :=
  [['-', '-', 's', 'e', 'c', 'o', 'n', 'd'],
    ['-', '-', 't', 'a', 'g', 's', '-', 'a', 'd', 'd', 'r'],
    ['-', '-', 'r', 'a', 'm', 'd', 'i', 's', 'k', '_', 'o', 'f', 'f', 's', 'e', 't'],
    ['-', '-', 'd', 't'],
    ['-', '-', 'p', 'a', 'g', 'e', 's', 'i', 'z', 'e'],
    ['-', '-', 'b', 'a', 's', 'e']]

/-- `shift 2`, which fails and changes nothing if fewer parameters are left. -/
def shiftTwo (args : List Text) : List Text := if 2 ≤ args.length then args.drop 2 else args

/-- One iteration of the option loop. A missing value is empty. -/
def Parsing.next (state : Parsing) : Parsing :=
  match state.args with
  | [] => state
  | arg :: rest =>
      let value := rest.headD []
      let shifted := shiftTwo (arg :: rest)
      if arg = kernelOption then ⟨shifted, { state.options with kernel := value }⟩
      else if arg = ramdiskOption then ⟨shifted, { state.options with ramdisk := value }⟩
      else if arg = outputOption then ⟨shifted, { state.options with output := value }⟩
      else if arg = cmdlineOption then ⟨shifted, { state.options with cmdline := value }⟩
      else if arg ∈ ignoredOptions then ⟨shifted, state.options⟩
      else ⟨rest, state.options⟩

/-- `while [[ $# -gt 0 ]]`; `none` if the loop takes more than `fuel` tests. -/
def parseOptions (fuel : Nat) (args : List Text) : Option Options :=
  (loop (fun state => !state.args.isEmpty) Parsing.next fuel ⟨args, ⟨[], [], [], []⟩⟩).map
    Parsing.options

/-- The files that the two packaging paths read: the two images of `base_images`,
and everything else by name. -/
structure Tree where
  bootImg : List Byte
  recoveryImg : List Byte
  file : Text → List Byte

/-- `echo "$KERNEL" | grep -qi "recovery"` -/
def selectsRecovery (kernel : Text) : Bool :=
  (kernel.map Char.toLower).tails.any (['r', 'e', 'c', 'o', 'v', 'e', 'r', 'y'].isPrefixOf ·)

/-- `BASE_IMG` -/
def Tree.baseImg (tree : Tree) (kernel : Text) : List Byte :=
  if selectsRecovery kernel then tree.recoveryImg else tree.bootImg

/-- `$(...)`: the output of a command without its trailing newlines. -/
def commandSubstitution (output : Text) : Text := output.rdropWhile (· == '\n')

/-- `truncate -s`: cut a file or extend it with NUL bytes. -/
def truncate (size : Nat) (file : List Byte) : List Byte :=
  file.take size ++ .replicate (size - file.length) 0#8

/-- The bytes that `printf '%s\n'` and `echo` write. -/
def echo (locale : Locale) (text : Text) : List Byte := (text ++ ['\n']).flatMap locale.encode

/-- How the wrapper ends: with an error of its own, or with the run of `pack_intel`
that writes the named file. -/
inductive WrapOutcome where
  | refused
  | packed (output : Text) (outcome : PackOutcome)
deriving DecidableEq, Repr

/-- `mkbootimg-wrap`. The length of `CMDLINE` is counted in characters, the file in
bytes. -/
def wrap (locale : Locale) (tree : Tree) (io : PackIo) (fuel : Nat) (args : List Text)
    (paddings : Word) : Option WrapOutcome :=
  if ['-', '-'].isPrefixOf (args.headD []) then
    match parseOptions fuel args with
    | none => none
    | some options =>
        if options.output = [] then some .refused
        else
          let cmdline := commandSubstitution (sed locale options.cmdline)
          if 1024 ≤ cmdline.length then some .refused
          else
            let cmdlineFile := truncate 1024 (echo locale cmdline)
            some (.packed options.output (pack io
              ⟨tree.baseImg options.kernel, tree.file options.kernel, tree.file options.ramdisk,
                cmdlineFile⟩ paddings))
  else
    match args with
    | [origin, bzImage, ramdisk, cmdline, output] =>
        some (.packed output (pack io
          ⟨tree.file origin, tree.file bzImage, tree.file ramdisk, tree.file cmdline⟩ paddings))
    | _ => some .refused

/-- The rules of `mkbootimg.mk`: `echo` writes the words of `BOARD_KERNEL_CMDLINE`,
then `pack_intel` runs on the base image of the target. -/
def directRule (locale : Locale) (io : PackIo) (base bzImage ramdisk : List Byte)
    (words : List Text) (paddings : Word) : PackOutcome :=
  pack io ⟨base, bzImage, ramdisk, echo locale (joinWords words)⟩ paddings

/-! ## The two command line files -/

/-- The characters that no shell treats specially and no filter touches: ASCII
letters and digits, and those of `._:=,/`. -/
def cmdlineChar (char : Char) : Bool :=
  char.isAlphanum || ['.', '_', ':', '=', ',', '/'].contains char

/-- A word of such characters that the build did not append. -/
structure CmdlineToken (word : Text) : Prop where
  nonempty : word ≠ []
  chars : ∀ char ∈ word, cmdlineChar char = true
  noVariant : ¬ variantKey <+: word

/-- A character of the command line is printable ASCII. -/
theorem cmdlineChar_range {char : Char} (plain : cmdlineChar char = true) :
    32 < char.toNat ∧ char.toNat < 128 := by
  simp only [cmdlineChar, Char.isAlphanum, Char.isAlpha, Char.isUpper, Char.isLower, Char.isDigit,
    Bool.or_eq_true, Bool.and_eq_true, decide_eq_true_eq, List.contains_iff_mem, List.mem_cons,
    List.not_mem_nil, or_false, ge_iff_le, UInt32.le_iff_toNat_le] at plain
  change (((65 ≤ char.toNat ∧ char.toNat ≤ 90) ∨ (97 ≤ char.toNat ∧ char.toNat ≤ 122)) ∨
    (48 ≤ char.toNat ∧ char.toNat ≤ 57)) ∨ _ at plain
  rcases plain with range | rfl | rfl | rfl | rfl | rfl | rfl
  · omega
  all_goals decide

/-- A command line token passes the filter in every locale. -/
theorem CmdlineToken.plainWord {word : Text} (token : CmdlineToken word) (locale : Locale) :
    PlainWord locale word where
  nonempty := token.nonempty
  noVariant := token.noVariant
  noSpace := by
    intro char member
    obtain ⟨low, high⟩ := cmdlineChar_range (token.chars char member)
    rw [Bool.eq_false_iff, ne_eq, locale.space_ascii char high]
    rintro (rfl | control)
    · exact absurd low (by decide)
    · omega

section Plain

variable {locale : Locale} {words : List Text} (tokens : ∀ word ∈ words, CmdlineToken word)
include tokens

/-- Joined tokens are printable ASCII. -/
theorem joinWords_ascii : ∀ char ∈ joinWords words, 31 < char.toNat ∧ char.toNat < 128 := by
  intro char member
  rcases mem_joinWords member with rfl | ⟨word, inside, member⟩
  · decide
  · have range := cmdlineChar_range ((tokens word inside).chars char member)
    omega

/-- A plain line has one byte for each character, and a newline. -/
theorem echo_plain : echo locale (joinWords words) = (joinWords words ++ ['\n']).map ascii := by
  have encoded : ∀ text : Text, (∀ char ∈ text, char.toNat < 128) →
      text.flatMap locale.encode = text.map ascii := by
    intro text range
    induction text with
    | nil => rfl
    | cons char text ih =>
        rw [List.flatMap_cons, List.map_cons, locale.encode_ascii char (range char List.mem_cons_self),
          ih fun char member => range char (List.mem_cons_of_mem _ member)]
        rfl
  apply encoded
  intro char member
  rcases List.mem_append.mp member with inWords | newline
  · exact (joinWords_ascii tokens char inWords).2
  · rw [List.mem_singleton.mp newline]
    decide

/-- The wrapper removes the appended variant and nothing else. -/
theorem commandSubstitution_plain {variant : Text} (nonempty : variant ≠ [])
    (noSpace : NoSpace locale variant) :
    commandSubstitution (sed locale (joinWords words ++ ' ' :: (variantKey ++ variant))) =
      joinWords words := by
  rw [sed_variant (fun word member => (tokens word member).plainWord locale) nonempty noSpace,
    commandSubstitution, List.rdropWhile_eq_self_iff]
  intro some
  have range := joinWords_ascii tokens _ (List.getLast_mem some)
  rw [beq_iff_eq]
  intro newline
  rw [newline] at range
  exact absurd range (by decide)

end Plain

/-! ## The two images -/

/-- `truncate` leaves a file of the given size. -/
theorem length_truncate (size : Nat) (file : List Byte) : (truncate size file).length = size := by
  rw [truncate, List.length_append, List.length_take, List.length_replicate]
  omega

section Agreement

variable (files : PackFiles) (room : sizeofBootheader ≤ files.origin.length)

/-- Images of runs that differ in the command line and in the uninitialised local
are the same if both make no difference. -/
theorem image_eq_iff (line line' : List Byte) (uninitialised uninitialised' : Word) :
    PackFiles.image { files with cmdline := line } room uninitialised =
      PackFiles.image { files with cmdline := line' } room uninitialised' ↔
    packedCmdline (files.base room).cmdline line = packedCmdline (files.base room).cmdline line' ∧
      files.paddings uninitialised = files.paddings uninitialised' := by
  constructor
  · intro same
    constructor
    · have field := cmdline_toBytes
        (PackFiles.header { files with cmdline := line } room uninitialised)
        (files.bzImage ++ (files.ramdisk ++ .replicate (files.paddings uninitialised).toNat 0xff#8))
      have field' := cmdline_toBytes
        (PackFiles.header { files with cmdline := line' } room uninitialised')
        (files.bzImage ++ (files.ramdisk ++ .replicate (files.paddings uninitialised').toNat 0xff#8))
      simp only [← List.append_assoc] at field field'
      exact Subtype.ext (field.symm.trans ((congrArg (slice · cmdlineStart cmdlineSize) same).trans
        field'))
    · have length := congrArg List.length same
      rw [image_length, image_length] at length
      exact BitVec.eq_of_toNat_eq (Nat.add_left_cancel length)
  · rintro ⟨field, padding⟩
    have total : (imageSizes files.bzImage.length files.ramdisk.length uninitialised).2 =
        (imageSizes files.bzImage.length files.ramdisk.length uninitialised').2 := by
      simp only [imageSizes]
      split <;> rfl
    have header : PackFiles.unsealedHeader { files with cmdline := line } room uninitialised =
        PackFiles.unsealedHeader { files with cmdline := line' } room uninitialised' := by
      simp only [PackFiles.unsealedHeader, PackFiles.base] at field ⊢
      rw [field, total]
    have sizes : PackFiles.paddings { files with cmdline := line } uninitialised =
        PackFiles.paddings { files with cmdline := line' } uninitialised' := padding
    rw [PackFiles.image, PackFiles.image, PackFiles.header, PackFiles.header, header, sizes]

/-- The padding is the same and fits the buffer, unless it is left to chance. -/
theorem paddings_agree_iff (uninitialised uninitialised' : Word) :
    (¬ bufsiz < (files.paddings uninitialised).toNat ∧
      files.paddings uninitialised = files.paddings uninitialised') ↔
    files.unpadded % sectorSize ≠ 0 ∨
      uninitialised = uninitialised' ∧ uninitialised.toNat ≤ bufsiz := by
  have left : (files.paddings uninitialised).toNat = _ := paddings_toNat uninitialised
  have right : (files.paddings uninitialised').toNat = _ := paddings_toNat uninitialised'
  by_cases aligned : files.unpadded % sectorSize = 0
  · rw [if_pos aligned] at left right
    rw [← BitVec.toNat_inj, left, right, BitVec.toNat_inj, Nat.not_lt]
    simp only [aligned, ne_eq, not_true_eq_false, false_or]
    exact And.comm
  · rw [if_neg aligned] at left right
    have small : files.rounded - files.unpadded ≤ bufsiz := by
      unfold PackFiles.rounded bufsiz sectorSize
      omega
    rw [← BitVec.toNat_inj, left, right, Nat.not_lt]
    simp [aligned, small]

/-- Cutting the file at the end of the field or leaving the rest of the field to the
base image is the same exactly if the base image has NUL bytes there. -/
theorem packedCmdline_truncate_iff {line : List Byte} (short : line.length < cmdlineSize) :
    packedCmdline (files.base room).cmdline (truncate cmdlineSize line) =
      packedCmdline (files.base room).cmdline line ↔
    ∀ offset, line.length ≤ offset → offset < cmdlineSize →
      files.origin.getD (cmdlineStart + offset) 0#8 = 0#8 := by
  have field := (files.base room).cmdline.2
  have origin : ∀ offset < cmdlineSize, (files.base room).cmdline.1.getD offset 0#8 =
      files.origin.getD (cmdlineStart + offset) 0#8 := by
    intro offset bound
    have inHeader : cmdlineStart + offset < sizeofBootheader :=
      Nat.lt_of_lt_of_le (Nat.add_lt_add_left bound _) (by decide)
    have read : (files.base room).cmdline.1 =
        slice (files.origin.take sizeofBootheader) cmdlineStart cmdlineSize := rfl
    rw [read, getD_slice _ _ bound, List.getD_eq_getElem?_getD, List.getElem?_take_of_lt inHeader,
      ← List.getD_eq_getElem?_getD]
  have cut : (packedCmdline (files.base room).cmdline (truncate cmdlineSize line)).1 =
      line ++ .replicate (cmdlineSize - line.length) 0#8 := by
    rw [packedCmdline_val, length_truncate, List.drop_of_length_le (Nat.le_of_eq field),
      List.append_nil, List.take_of_length_le (Nat.le_of_eq (length_truncate _ _)), truncate,
      List.take_of_length_le (Nat.le_of_lt short)]
  have kept : (packedCmdline (files.base room).cmdline line).1 =
      line ++ (files.base room).cmdline.1.drop line.length := by
    rw [packedCmdline_val, List.take_of_length_le (Nat.le_of_lt short)]
  have zeros : (files.base room).cmdline.1.drop line.length = _ ↔ _ := drop_eq_zeros_iff
  rw [field] at zeros
  rw [Subtype.ext_iff, cut, kept, List.append_cancel_left_eq, eq_comm, zeros]
  constructor
  · intro bytes offset behind inside
    rw [← origin offset inside]
    exact bytes offset behind inside
  · intro bytes offset behind inside
    rw [origin offset inside]
    exact bytes offset behind inside

/-- Two runs of `pack_intel` for a command line file that is shorter than its field,
once as it is and once extended with NUL bytes, have the same defined outcome
exactly if neither the base image nor the uninitialised local makes a difference. -/
theorem pack_truncate_iff {io io' : PackIo} (succeeds : io.Succeeds) (succeeds' : io'.Succeeds)
    {line : List Byte} (short : line.length < cmdlineSize) (uninitialised uninitialised' : Word) :
    (pack io { files with cmdline := truncate cmdlineSize line } uninitialised ≠ .undefined ∧
      pack io { files with cmdline := truncate cmdlineSize line } uninitialised =
        pack io' { files with cmdline := line } uninitialised') ↔
    files.origin.length < sizeofBootheader ∨
      (∀ offset, line.length ≤ offset → offset < cmdlineSize →
        files.origin.getD (cmdlineStart + offset) 0#8 = 0#8) ∧
      (files.unpadded % sectorSize ≠ 0 ∨
        uninitialised = uninitialised' ∧ uninitialised.toNat ≤ bufsiz) := by
  by_cases room : sizeofBootheader ≤ files.origin.length
  · have cut := pack_eq succeeds { files with cmdline := truncate cmdlineSize line } room uninitialised
    have kept := pack_eq succeeds' { files with cmdline := line } room uninitialised'
    have images := image_eq_iff files room (truncate cmdlineSize line) line uninitialised
      uninitialised'
    have paddings : PackFiles.paddings { files with cmdline := truncate cmdlineSize line }
        uninitialised = files.paddings uninitialised := rfl
    have paddings' : PackFiles.paddings { files with cmdline := line } uninitialised' =
        files.paddings uninitialised' := rfl
    rw [paddings] at cut
    rw [paddings'] at kept
    rw [or_iff_right (Nat.not_lt.mpr room), ← packedCmdline_truncate_iff files room short,
      ← paddings_agree_iff, cut, kept]
    constructor
    · rintro ⟨defined, same⟩
      by_cases fits : bufsiz < (files.paddings uninitialised).toNat
      · exact absurd (if_pos fits) defined
      · rw [if_neg fits] at same
        split at same
        · cases same
        · have parts := images.mp (by injection same)
          exact ⟨parts.1, fits, parts.2⟩
    · rintro ⟨field, fits, padding⟩
      rw [if_neg fits, if_neg (padding ▸ fits), images.mpr ⟨field, padding⟩]
      exact ⟨by simp, rfl⟩
  · have shortBase := Nat.lt_of_not_le room
    have cut := @pack_short io succeeds { files with cmdline := truncate cmdlineSize line }
      shortBase uninitialised
    have kept := @pack_short io' succeeds' { files with cmdline := line } shortBase uninitialised'
    rw [cut, kept]
    simp [shortBase]

end Agreement

/-- The wrapper packs the plain words, as a file that fills the field. -/
theorem wrap_plain {locale : Locale} {tree : Tree} {io : PackIo} {fuel : Nat} {args : List Text}
    {options : Options} (long : ['-', '-'].isPrefixOf (args.headD []) = true)
    (parsed : parseOptions fuel args = some options) (output : options.output ≠ [])
    {words : List Text} (tokens : ∀ word ∈ words, CmdlineToken word)
    (short : (joinWords words).length ≤ 1022) {variant : Text} (nonempty : variant ≠ [])
    (noSpace : NoSpace locale variant)
    (cmdline : options.cmdline = joinWords words ++ ' ' :: (variantKey ++ variant))
    (paddings : Word) : wrap locale tree io fuel args paddings =
      some (.packed options.output (pack io
        ⟨tree.baseImg options.kernel, tree.file options.kernel, tree.file options.ramdisk,
          truncate cmdlineSize (echo locale (joinWords words))⟩ paddings)) := by
  have accepted : ¬ 1024 ≤ (joinWords words).length := by omega
  simp only [wrap, long, parsed, cmdline, commandSubstitution_plain tokens nonempty noSpace,
    if_true, if_neg output, if_neg accepted]
  rfl

/-- The wrapper and the direct rule write the same image exactly if the base image is
rejected, or has only NUL bytes in the part of its command line field that the direct
rule leaves to it, and the padding is not left to chance or is the same by chance. -/
theorem wrap_directRule_iff {locale : Locale} {tree : Tree} {wrapIo directIo : PackIo}
    (wraps : wrapIo.Succeeds) (directs : directIo.Succeeds) {fuel : Nat} {args : List Text}
    {options : Options} (long : ['-', '-'].isPrefixOf (args.headD []) = true)
    (parsed : parseOptions fuel args = some options) (output : options.output ≠ [])
    {words : List Text} (tokens : ∀ word ∈ words, CmdlineToken word)
    (short : (joinWords words).length ≤ 1022) {variant : Text} (nonempty : variant ≠ [])
    (noSpace : NoSpace locale variant)
    (cmdline : options.cmdline = joinWords words ++ ' ' :: (variantKey ++ variant))
    (wrapPaddings directPaddings : Word) :
    (∃ outcome, outcome ≠ .undefined ∧
      wrap locale tree wrapIo fuel args wrapPaddings = some (.packed options.output outcome) ∧
      directRule locale directIo (tree.baseImg options.kernel) (tree.file options.kernel)
        (tree.file options.ramdisk) words directPaddings = outcome) ↔
    (tree.baseImg options.kernel).length < sizeofBootheader ∨
      (∀ offset, (joinWords words).length < offset → offset < cmdlineSize →
        (tree.baseImg options.kernel).getD (cmdlineStart + offset) 0#8 = 0#8) ∧
      ((sizeofBootheader + (tree.file options.kernel).length +
          (tree.file options.ramdisk).length) % sectorSize ≠ 0 ∨
        wrapPaddings = directPaddings ∧ wrapPaddings.toNat ≤ bufsiz) := by
  have length : (echo locale (joinWords words)).length = (joinWords words).length + 1 := by
    rw [echo_plain tokens, List.length_map, List.length_append, List.length_singleton]
  have shorter : (echo locale (joinWords words)).length < cmdlineSize := by
    unfold cmdlineSize
    omega
  have packed := pack_truncate_iff
    ⟨tree.baseImg options.kernel, tree.file options.kernel, tree.file options.ramdisk, []⟩
    wraps directs shorter wrapPaddings directPaddings
  rw [length] at packed
  rw [wrap_plain long parsed output tokens short nonempty noSpace cmdline]
  refine Iff.trans ?_ packed
  constructor
  · rintro ⟨outcome, defined, wrapped, direct⟩
    cases wrapped
    exact ⟨defined, direct.symm⟩
  · rintro ⟨defined, same⟩
    exact ⟨_, defined, rfl, same.symm⟩

/-! ## A build of the `user` variant -/

/-- `--kernel k --ramdisk r --output o --cmdline "a buildvariant=user"` -/
def userArgs : List Text :=
  [kernelOption, ['k'], ramdiskOption, ['r'], outputOption, ['o'], cmdlineOption,
    ['a', ' '] ++ variantKey ++ ['u', 's', 'e', 'r']]

/-- The variables that the option loop sets. -/
def userOptions : Options :=
  ⟨['k'], ['r'], ['o'], ['a', ' '] ++ variantKey ++ ['u', 's', 'e', 'r']⟩

/-- Base images that repeat one byte, a kernel of one byte and no ramdisk. -/
def Tree.filled (byte : Byte) : Tree where
  bootImg := .replicate sizeofBootheader byte
  recoveryImg := .replicate sizeofBootheader byte
  file name := if name = ['k'] then [0x4d#8] else []

theorem userArgs_parsed : parseOptions 5 userArgs = some userOptions := by decide

theorem user_tokens : ∀ word ∈ [['a']], CmdlineToken word := by
  intro word member
  rw [List.mem_singleton.mp member]
  refine ⟨List.cons_ne_nil _ _, fun char single => ?_, by decide⟩
  rw [List.mem_singleton.mp single]
  rfl

theorem user_noSpace : NoSpace Locale.c ['u', 's', 'e', 'r'] := by
  intro char member
  have plain : ['u', 's', 'e', 'r'].all (fun char => !Locale.c.space char) = true := rfl
  simpa using List.all_eq_true.mp plain char member

theorem filled_boot (byte : Byte) :
    (Tree.filled byte).baseImg userOptions.kernel = .replicate sizeofBootheader byte := by
  rw [Tree.baseImg]
  split <;> rfl

/-- Over a base image of NUL bytes the two paths agree. -/
theorem wrap_directRule_zeros : ∃ outcome, outcome ≠ .undefined ∧
    wrap .c (.filled 0#8) .reliable 5 userArgs 0#32 = some (.packed ['o'] outcome) ∧
    directRule .c .reliable ((Tree.filled 0#8).baseImg ['k']) [0x4d#8] [] [['a']] 0#32 =
      outcome := by
  apply (wrap_directRule_iff PackIo.reliable_succeeds PackIo.reliable_succeeds rfl userArgs_parsed
    (by decide) user_tokens (by decide) (by decide) user_noSpace rfl 0#32 0#32).mpr
  refine Or.inr ⟨fun offset _ inside => ?_, Or.inr ⟨rfl, by decide⟩⟩
  have zero : cmdlineStart + offset < sizeofBootheader :=
    Nat.lt_of_lt_of_le (Nat.add_lt_add_left inside _) (by decide)
  rw [filled_boot, List.getD_replicate _ zero]

/-- Over a base image of ones the direct rule leaves its field unterminated. -/
theorem wrap_directRule_ones : ¬ ∃ outcome, outcome ≠ .undefined ∧
    wrap .c (.filled 0xff#8) .reliable 5 userArgs 0#32 = some (.packed ['o'] outcome) ∧
    directRule .c .reliable ((Tree.filled 0xff#8).baseImg ['k']) [0x4d#8] [] [['a']] 0#32 =
      outcome := by
  rintro ⟨outcome, defined, wrapped, direct⟩
  have packed := pack_truncate_iff ⟨.replicate sizeofBootheader 0xff#8, [0x4d#8], [], []⟩
    PackIo.reliable_succeeds PackIo.reliable_succeeds
    (by decide : (echo .c (joinWords [['a']])).length < cmdlineSize) 0#32 0#32
  rw [wrap_plain rfl userArgs_parsed (by decide) user_tokens (by decide) (by decide) user_noSpace
    rfl, filled_boot] at wrapped
  obtain ⟨_, rfl⟩ := WrapOutcome.packed.inj (Option.some.inj wrapped)
  rcases packed.mp ⟨defined, direct.symm⟩ with short | ⟨zeros, _⟩
  · rw [List.length_replicate] at short
    exact Nat.lt_irrefl _ short
  · have byte := zeros 1023 (by decide) (by decide)
    rw [List.getD_replicate _ (by decide)] at byte
    exact absurd byte (by decide)

end T00F.Mkbootimg
