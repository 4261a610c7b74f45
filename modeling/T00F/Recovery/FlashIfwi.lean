import T00F.Recovery.Flash

/-!
# Reading the image file

`FlashIfwiMofdFn` reads an image file into memory and flashes it. It checks neither its
seeks nor how much it has read. `flashComplete_iff` says for which outcomes of these calls
only complete images are flashed.
-/

namespace T00F.Recovery

open Systems

/-- The outcomes of the calls on an open file: which seeks succeed, the position that
`ftell` returns, whether there is memory and what it holds, and how many bytes can be
read. -/
structure FileIo where
  strerror : String
  seekEnd : Bool
  ftell : Int
  ftell_lt : ftell < 2 ^ 31
  seekSet : Bool
  malloc : Bool
  memory : Nat → Byte
  readable : Nat

namespace FileIo

/-- The position in the file behind both seeks. -/
def position (io : FileIo) (content : List Byte) : Nat :=
  if io.seekSet then 0 else if io.seekEnd then content.length else 0

/-- The bytes that `fread` stores. -/
def stored (io : FileIo) (content : List Byte) : List Byte :=
  (content.drop (io.position content)).take (min io.readable io.ftell.toNat)

/-- The whole buffer. -/
def buffer (io : FileIo) (content : List Byte) : List Byte :=
  let stored := io.stored content
  stored ++ (List.range' stored.length (io.ftell.toNat - stored.length)).map io.memory

/-- `fread` stores at most the size that `ftell` reports. -/
theorem length_stored_le (io : FileIo) (content : List Byte) :
    (io.stored content).length ≤ io.ftell.toNat := by
  rw [stored, List.length_take]
  omega

/-- The buffer has the size that `ftell` reports. -/
theorem length_buffer (io : FileIo) (content : List Byte) :
    (io.buffer content).length = io.ftell.toNat := by
  have bound := io.length_stored_le content
  rw [buffer, List.length_append, List.length_map, List.length_range']
  omega

/-- The size of `ftell` is a machine word. -/
theorem toNat_ftell_lt (io : FileIo) : io.ftell.toNat < 2 ^ 32 := by
  have bound := io.ftell_lt
  omega

/-- What is passed to `flash_ifwi_scu_emmc`. -/
def image (io : FileIo) (content : List Byte) : Image :=
  ⟨io.buffer content, io.ftell.toNat, io.length_buffer content, io.toNat_ftell_lt⟩

end FileIo

/-- The value or the text of `ErrorAbort`, what was passed to `flash_ifwi_scu_emmc` and
what that returned, and the partitions. -/
structure FlashOutcome where
  result : Except String String
  passed : Option (Image × Int)
  device : Device

/-- `FlashIfwiMofdFn`. An expression of `argv` evaluates to a string or fails; `files` are
the files that can be opened. -/
def flashIfwiMofdFn (files : String → Option (List Byte)) (io : FileIo) (kernel : Kernel)
    (node : NodeRead) (name : String) (argv : List (Option String)) (device : Device) :
    Except Fault FlashOutcome :=
  if argv.length ≠ 1 then
    .ok ⟨.error s!"{name}() expected 1 arg, got {argv.length}", none, device⟩
  else
    match argv.mapM id with
    | none => .ok ⟨.error s!"{name}() invalid args ", none, device⟩
    | some args =>
        let filename := args.headD ""
        if filename = "" then
          .ok ⟨.error s!"filename argument to {name} can't be empty", none, device⟩
        else
          match files filename with
          | none =>
              .ok ⟨.error s!"Unable to open file {filename}: {io.strerror} ", none, device⟩
          | some content =>
              if io.ftell < 0 then .ok ⟨.error "Unable to get ifwi_size ", none, device⟩
              else if !io.malloc then
                .ok ⟨.error s!"Unable to alloc ifwi flash buffer of size {io.ftell}", none, device⟩
              else
                match flashIfwiScuEmmc kernel node (io.image content) device with
                | .error fault => .error fault
                | .ok (ret, device) =>
                    if ret ≠ 0 then
                      .ok ⟨.error "Unable to flash ifwi in emmc", some (io.image content, ret), device⟩
                    else .ok ⟨.ok "", some (io.image content, ret), device⟩

/-- A value is returned only if the complete file was flashed without an error, and if the
file was not read completely, the partitions are as they were. -/
structure FlashComplete (files : String → Option (List Byte)) (io : FileIo)
    (argv : List (Option String)) (device : Device) (outcome : FlashOutcome) : Prop where
  flashed : ∀ text, outcome.result = .ok text → ∃ filename content image,
    argv = [some filename] ∧ files filename = some content ∧
      outcome.passed = some (image, 0) ∧ image.data = content
  unread : ∀ filename content, argv = [some filename] → files filename = some content →
    ((io.stored content).length : Int) < io.ftell → outcome.device.boot = device.boot

/-- The call gets as far as flashing what it has read of a file. -/
def Flashes (files : String → Option (List Byte)) (io : FileIo) (argv : List (Option String))
    (content : List Byte) : Prop :=
  ∃ filename, argv = [some filename] ∧ filename ≠ "" ∧ files filename = some content ∧
    0 ≤ io.ftell ∧ io.malloc = true

variable {files : String → Option (List Byte)} {io : FileIo} {argv : List (Option String)}
  {content : List Byte}

/-- When the file can be read the command flashes its buffer. -/
theorem flashIfwiMofdFn_flashes (flashes : Flashes files io argv content) (kernel : Kernel)
    (node : NodeRead) (name : String) (device : Device) :
    flashIfwiMofdFn files io kernel node name argv device =
      (flashIfwiScuEmmc kernel node (io.image content) device).map fun (ret, device) =>
        ⟨if ret ≠ 0 then .error "Unable to flash ifwi in emmc" else .ok "",
          some (io.image content, ret), device⟩ := by
  obtain ⟨filename, rfl, named, opened, size, malloc⟩ := flashes
  have positive : ¬ io.ftell < 0 := by omega
  simp only [flashIfwiMofdFn, List.length_singleton, ne_eq, not_true_eq_false, if_false,
    List.mapM_cons, List.mapM_nil, id, Option.pure_def, Option.bind_eq_bind, Option.bind_some,
    List.headD_cons, named, opened, positive, malloc, Bool.not_true, Bool.false_eq_true]
  cases flashIfwiScuEmmc kernel node (io.image content) device with
  | error fault => rfl
  | ok returned =>
      obtain ⟨ret, device⟩ := returned
      by_cases failed : ret = 0
      · simp [failed, Except.map]
      · simp [failed, Except.map]

/-- If it does not get that far, it aborts and leaves the partitions alone. -/
theorem flashIfwiMofdFn_aborts (early : ∀ content, ¬ Flashes files io argv content)
    (kernel : Kernel) (node : NodeRead) (name : String) (device : Device) :
    ∃ text, flashIfwiMofdFn files io kernel node name argv device =
      .ok ⟨.error text, none, device⟩ := by
  unfold flashIfwiMofdFn
  by_cases one : argv.length = 1
  · obtain ⟨arg, rfl⟩ := List.length_eq_one_iff.mp one
    rw [if_neg (not_not.mpr one)]
    cases arg with
    | none => exact ⟨_, rfl⟩
    | some filename =>
        simp only [List.mapM_cons, List.mapM_nil, id, Option.pure_def, Option.bind_eq_bind,
          Option.bind_some, List.headD_cons]
        by_cases named : filename = ""
        · exact ⟨_, if_pos named⟩
        · simp only [named, if_false]
          cases opened : files filename with
          | none => exact ⟨_, rfl⟩
          | some content =>
              dsimp only
              by_cases size : io.ftell < 0
              · exact ⟨_, if_pos size⟩
              · cases malloc : io.malloc with
                | false => exact ⟨_, by rw [if_neg size]; rfl⟩
                | true =>
                    have flashes : Flashes files io [some filename] content :=
                      ⟨filename, rfl, named, opened, by omega, malloc⟩
                    exact absurd flashes (early content)
  · exact ⟨_, if_pos one⟩

/-- A file that was read completely into a buffer of its size. -/
theorem image_data {content : List Byte} (size : io.ftell = content.length)
    (whole : io.stored content = content) : (io.image content).data = content := by
  have filled : io.ftell.toNat - content.length = 0 := by omega
  simp only [FileIo.image, FileIo.buffer, whole, filled, List.range'_zero, List.map_nil,
    List.append_nil]

/-- If the read was complete and the buffer is the file, the size was right. -/
theorem stored_eq {content : List Byte} (positive : 0 ≤ io.ftell)
    (read : ¬ ((io.stored content).length : Int) < io.ftell)
    (same : (io.image content).data = content) :
    io.ftell = content.length ∧ io.stored content = content := by
  have bound := io.length_stored_le content
  have filled : io.ftell.toNat - (io.stored content).length = 0 := by omega
  simp only [FileIo.image, FileIo.buffer, filled, List.range'_zero, List.map_nil,
    List.append_nil] at same
  rw [same] at bound read
  exact ⟨by omega, same⟩

/-- An error before anything is written promises nothing. -/
theorem flashComplete_of_error (text : String) (passed : Option (Image × Int)) (device : Device) :
    FlashComplete files io argv device ⟨.error text, passed, device⟩ where
  flashed := by
    rintro _ ⟨⟩
  unread _ _ _ _ _ := rfl

/-- With the whole file in the buffer, a value is returned only for an image that was written. -/
theorem flashComplete_of_whole (flashes : Flashes files io argv content)
    (size : io.ftell = content.length) (whole : io.stored content = content) {kernel : Kernel}
    {node : NodeRead} {name : String} {device : Device} {outcome : FlashOutcome}
    (run : flashIfwiMofdFn files io kernel node name argv device = .ok outcome) :
    FlashComplete files io argv device outcome := by
  rw [flashIfwiMofdFn_flashes flashes] at run
  obtain ⟨filename, arguments, _, opened, _⟩ := flashes
  by_cases passes : Refused (io.image content) node
  · rw [flashIfwiScuEmmc_refused passes] at run
    cases run
    exact flashComplete_of_error _ _ _
  · rw [flashIfwiScuEmmc_passes passes] at run
    cases run
    constructor
    · intro text returned
      have zero : (updateIfwiFileScuEmmc kernel (io.image content) device).1 = 0 := by
        by_contra failed
        dsimp only at returned
        rw [if_pos failed] at returned
        cases returned
      exact ⟨filename, content, io.image content, arguments, opened, by rw [zero],
        image_data size whole⟩
    · intro other others same known short
      cases arguments.symm.trans same
      cases opened.symm.trans known
      rw [whole] at short
      omega

/-- For given files, arguments and outcomes of the calls on the file, only complete images
are flashed, whatever the device answers, exactly if no image is flashed, or the gate
refuses what is in the buffer, or `ftell` returned the size of the file and the read
stored the whole of it. -/
theorem flashComplete_iff (files : String → Option (List Byte)) (io : FileIo) (node : NodeRead)
    (name : String) (argv : List (Option String)) :
    (∀ kernel device outcome,
        flashIfwiMofdFn files io kernel node name argv device = .ok outcome →
          FlashComplete files io argv device outcome) ↔
      ∀ content, Flashes files io argv content →
        Refused (io.image content) node ∨
          (io.ftell = content.length ∧ io.stored content = content) := by
  constructor
  · intro complete content flashes
    by_cases passes : Refused (io.image content) node
    · exact Or.inl passes
    · right
      -- Where all calls succeed and every write is visible, it is flashed and written.
      obtain ⟨ret, device, flashed, changed⟩ := flashIfwiScuEmmc_changes passes
      have succeeds := (updateIfwiFileScuEmmc_succeeds Kernel.reliable_succeeds (io.image content)
        .unsealed).1
      have zero : ret = 0 := by
        rw [flashIfwiScuEmmc_passes passes, Except.ok.injEq, Prod.mk.injEq] at flashed
        rw [← flashed.1, succeeds]
      have run := flashIfwiMofdFn_flashes flashes .reliable node name .unsealed
      rw [flashed] at run
      obtain ⟨filename, arguments, _, opened, positive, _⟩ := flashes
      obtain ⟨returned, unread⟩ := complete _ _ _ run
      apply stored_eq positive
      · intro short
        exact changed (unread filename content arguments opened short)
      · obtain ⟨other, others, image, same, known, passed, data⟩ := returned "" (by rw [zero]; rfl)
        cases arguments.symm.trans same
        cases opened.symm.trans known
        cases passed
        exact data
  · intro condition kernel device outcome run
    by_cases flashes : ∃ content, Flashes files io argv content
    · obtain ⟨content, flashes⟩ := flashes
      rcases condition content flashes with refused | ⟨size, whole⟩
      · rw [flashIfwiMofdFn_flashes flashes, flashIfwiScuEmmc_refused refused] at run
        cases run
        exact flashComplete_of_error _ _ _
      · exact flashComplete_of_whole flashes size whole run
    · obtain ⟨text, aborts⟩ := flashIfwiMofdFn_aborts (not_exists.mp flashes) kernel node name device
      rw [aborts] at run
      cases run
      exact flashComplete_of_error _ _ _

/-- Nothing can be read of a file of one byte, and the buffer holds something else. -/
def unreadable : FileIo where
  strerror := ""
  seekEnd := true
  ftell := 1
  ftell_lt := by decide
  seekSet := true
  malloc := true
  memory _ := 0xAA#8
  readable := 0

/-- The read fails, and what the memory held is written to the partitions. -/
theorem flash_unread :
    ¬ ∀ outcome, flashIfwiMofdFn (fun _ => some [0x55#8]) unreadable .reliable .notANumber
        "mofd.flash_ifwi" [some "ifwi.bin"] .unsealed = .ok outcome →
      FlashComplete (fun _ => some [0x55#8]) unreadable [some "ifwi.bin"] .unsealed outcome := by
  intro complete
  have flashes : Flashes (fun _ => some [0x55#8]) unreadable [some "ifwi.bin"] [0x55#8] :=
    ⟨"ifwi.bin", rfl, by decide, rfl, by decide, rfl⟩
  have buffer : unreadable.image [0x55#8] = .oneByte := rfl
  obtain ⟨ret, device, flashed, changed⟩ := flashIfwiScuEmmc_changes notANumber_passes
  have run := flashIfwiMofdFn_flashes flashes .reliable .notANumber "mofd.flash_ifwi" .unsealed
  rw [buffer, flashed] at run
  exact changed ((complete _ run).unread "ifwi.bin" [0x55#8] rfl rfl (by decide))

end T00F.Recovery
