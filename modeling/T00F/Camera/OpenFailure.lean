import T00F.Camera.Wrapper

/-!
# Opens that fail

What a call of `camera_device_open` has to leave behind: an open vendor device if it
returns 0, and nothing if it returns an error. `openOutcome_iff` says for which outcomes
of the calls that it makes it does.
-/

namespace T00F.Camera

open Systems

/-- What happened to blocks between two states of the module. -/
def Wrapper.usesSince (wrapper next : Wrapper) : List (Use Block) :=
  next.blocks.drop wrapper.blocks.length

/-- A block was acquired and not released. -/
def LeftAcquired (uses : List (Use Block)) (block : Block) : Prop :=
  .acquire block ∈ uses ∧ .release block ∉ uses

/-- The outcome of an open that was called with `before` in `*device`. -/
structure OpenOutcome (wrapper : Wrapper) (before : Option WrapperCameraDevice)
    (outcome : Int × Option (Option WrapperCameraDevice) × Wrapper) : Prop where
  opened : outcome.1 = 0 ↔ ∃ device, outcome.2.1 = some (some device) ∧
    LeftAcquired (wrapper.usesSince outcome.2.2) (.vendor device.serial)
  device_null : outcome.1 ≠ 0 → outcome.2.1.getD before = none
  released : outcome.1 ≠ 0 → ∀ block, ¬ LeftAcquired (wrapper.usesSince outcome.2.2) block
  fixedSetParams : outcome.1 ≠ 0 → outcome.2.2.fixedSetParams = wrapper.fixedSetParams

/-- The open fails before it has allocated or changed anything, with `*device` and
`fixed_set_params` null as it leaves them, or it succeeds. -/
def OpenIo.LeavesNothing (numCameras : Nat) (io : OpenIo) (name : List Byte) (wrapper : Wrapper)
    (before : Option WrapperCameraDevice) : Prop :=
  if io.checkVendorModule = false then before = none
  else if atoi name < 0 ∨ numCameras ≤ atoi name then True
  else if io.mallocParams = false then wrapper.fixedSetParams = none
  else io.Succeeds

@[simp] theorem usesSince_self (wrapper : Wrapper) : wrapper.usesSince wrapper = [] := by
  simp [Wrapper.usesSince]

/-- No use leaves no block acquired. -/
theorem leftAcquired_nil (block : Block) : ¬ LeftAcquired [] block := by
  rintro ⟨acquired, _⟩
  cases acquired

/-- An error that leaves the module as it was. -/
theorem openOutcome_unchanged {wrapper : Wrapper} {before : Option WrapperCameraDevice} {rv : Int}
    (failed : rv ≠ 0) {stored : Option (Option WrapperCameraDevice)}
    (nothing : stored.join = none) :
    OpenOutcome wrapper before (rv, stored, wrapper) ↔ stored.getD before = none := by
  constructor
  · intro outcome
    exact outcome.device_null failed
  · intro null
    refine ⟨?_, fun _ => null, fun _ block => ?_, fun _ => rfl⟩
    · refine iff_of_false failed ?_
      rintro ⟨device, found, _⟩
      dsimp only at found
      rw [found] at nothing
      cases nothing
    · rw [usesSince_self]
      exact leftAcquired_nil block

/-- The array is never freed, whatever fails after its allocation. -/
theorem openCamera_leftAcquired {io : OpenIo} (params : io.mallocParams = true) (cameraid : Nat)
    (wrapper : Wrapper) :
    LeftAcquired (wrapper.usesSince (openCamera io cameraid wrapper).2.2)
      (.fixedSetParams wrapper.next) := by
  unfold openCamera Wrapper.usesSince LeftAcquired
  cases device : io.mallocDevice with
  | false => simp [params, Wrapper.track]
  | true =>
      by_cases vendor : io.vendorOpen = 0
      · cases ops : io.mallocOps with
        | false => simp [params, vendor, Wrapper.track]
        | true => simp [params, vendor, Wrapper.track]
      · simp [params, vendor, Wrapper.track]

/-- A successful `open` returns a device whose vendor module stays open. -/
theorem openCamera_succeeds {io : OpenIo} (succeeds : io.Succeeds) (cameraid : Nat)
    (wrapper : Wrapper) :
    (openCamera io cameraid wrapper).2.1 = some ⟨wrapper.next, cameraid⟩ ∧
      LeftAcquired (wrapper.usesSince (openCamera io cameraid wrapper).2.2)
        (.vendor wrapper.next) := by
  obtain ⟨params, device, vendor, ops⟩ := succeeds
  unfold openCamera Wrapper.usesSince LeftAcquired
  simp [params, device, vendor, ops, Wrapper.track]

/-- When the outcome of `open` is as stated, by the outcome of its allocations. -/
theorem openCamera_outcome (io : OpenIo) (cameraid : Nat) (wrapper : Wrapper)
    (before : Option WrapperCameraDevice) :
    OpenOutcome wrapper before ((openCamera io cameraid wrapper).1,
        some (openCamera io cameraid wrapper).2.1, (openCamera io cameraid wrapper).2.2) ↔
      if io.mallocParams = false then wrapper.fixedSetParams = none else io.Succeeds := by
  cases params : io.mallocParams with
  | false =>
      have failed : -enomem ≠ 0 := by decide
      have run : openCamera io cameraid wrapper =
          (-enomem, none, { wrapper with next := wrapper.next + 1, fixedSetParams := none }) := by
        rw [openCamera, params]
        rfl
      rw [run, if_pos rfl]
      constructor
      · intro outcome
        exact (outcome.fixedSetParams failed).symm
      · intro null
        refine ⟨iff_of_false failed ?_, fun _ => rfl, fun _ block => ?_, fun _ => null.symm⟩
        · rintro ⟨device, found, _⟩
          cases found
        · have nothing : wrapper.usesSince
              { wrapper with next := wrapper.next + 1, fixedSetParams := none } = [] :=
            usesSince_self wrapper
          rw [nothing]
          exact leftAcquired_nil block
  | true =>
      rw [if_neg (by decide)]
      obtain ⟨_, ⟨fails, code, _⟩ | ⟨succeeds, code, _⟩⟩ := openCamera_spec io cameraid wrapper
      · refine iff_of_false (fun outcome => ?_) fails
        exact outcome.released code _ (openCamera_leftAcquired params cameraid wrapper)
      · obtain ⟨stored, vendor⟩ := openCamera_succeeds succeeds cameraid wrapper
        refine iff_of_true ⟨iff_of_true code ⟨_, congrArg some stored, vendor⟩, ?_, ?_, ?_⟩ succeeds
        all_goals exact fun failed => absurd code failed

/-- For every name, state and outcome of its calls, an open leaves behind what it should
exactly if it is given a name and either fails with nothing to undo or succeeds. -/
theorem openOutcome_iff (numCameras : Nat) (io : OpenIo) (name : Option (List Byte))
    (wrapper : Wrapper) (before : Option WrapperCameraDevice) :
    OpenOutcome wrapper before (cameraDeviceOpen numCameras io name wrapper) ↔
      ∃ text, name = some text ∧ io.LeavesNothing numCameras text wrapper before := by
  have invalid : -einval ≠ 0 := by decide
  cases name with
  | none =>
      constructor
      · intro outcome
        -- It returns 0 without a device.
        obtain ⟨device, stored, _⟩ := outcome.opened.mp rfl
        cases stored
      · rintro ⟨text, absent, _⟩
        cases absent
  | some text =>
      simp only [Option.some.injEq, exists_eq_left', OpenIo.LeavesNothing, cameraDeviceOpen]
      cases module : io.checkVendorModule with
      | false =>
          rw [if_pos rfl]
          exact openOutcome_unchanged invalid rfl
      | true =>
          simp only [Bool.not_true, Bool.true_eq_false, Bool.false_eq_true, if_false]
          by_cases range : atoi text < 0 ∨ numCameras ≤ atoi text
          · rw [if_pos range, if_pos range, openOutcome_unchanged invalid rfl]
            exact iff_of_true rfl trivial
          · rw [if_neg range, if_neg range]
            exact openCamera_outcome io _ wrapper before

/-- The vendor cannot open the camera; the new array stays allocated. -/
theorem vendorOpen_fails :
    ¬ OpenOutcome .initial none
      (cameraDeviceOpen 1 ⟨true, true, true, -19, true⟩ (some [ascii '0']) .initial) := by
  intro outcome
  exact outcome.released (by decide) (.fixedSetParams 0) ⟨by decide, by decide⟩

end T00F.Camera
