import T00F.Systems.Lifecycle
import T00F.Systems.Text

/-!
# The camera wrapper

`CameraWrapper.cpp`: what its device and module functions do to `fixed_set_params`, the
array of parameter strings that all open cameras share. The parameter strings are known
by numbers, and a log says which of them are allocated, given to the vendor and freed.
`openCamera_spec` and `cameraDeviceOpen_cases` say what an open does to them.
-/

namespace T00F.Camera

open Systems

/-- `EINVAL` -/
def einval : Int := 22

/-- `ENOMEM` -/
def enomem : Int := 12

/-- What `camera_device_open` allocates besides the parameter strings. -/
inductive Block where
  | fixedSetParams (serial : Nat)
  | cameraDevice (serial : Nat)
  | cameraOps (serial : Nat)
  | vendor (serial : Nat)
deriving DecidableEq, Repr

/-- `wrapper_camera_device_t`: its blocks and its vendor device have the same number. -/
structure WrapperCameraDevice where
  serial : Nat
  id : Nat
deriving DecidableEq, Repr

/-- The static variables of the module, the open devices, and the logs of what happened
to parameter strings and other blocks. Serial numbers from `next` on are unused. -/
structure Wrapper where
  fixedSetParams : Option (Nat → Option Nat)
  devices : List WrapperCameraDevice
  strings : List (Use Nat)
  blocks : List (Use Block)
  next : Nat

/-- Nothing was called yet. -/
def Wrapper.initial : Wrapper := ⟨none, [], [], [], 0⟩

/-- The outcomes of the calls in `camera_device_open`: whether `check_vendor_module`
returns 0, whether the allocations succeed, and what the vendor returns. -/
structure OpenIo where
  checkVendorModule : Bool
  mallocParams : Bool
  mallocDevice : Bool
  vendorOpen : Int
  mallocOps : Bool
deriving DecidableEq, Repr

/-- `atoi` -/
def atoi (text : List Byte) : Int := (strtol text).1

/-- Record what happens to a block. -/
def Wrapper.track (wrapper : Wrapper) (use : Use Block) : Wrapper :=
  { wrapper with blocks := wrapper.blocks ++ [use] }

/-- `camera_device_open` from the first allocation on. -/
def openCamera (io : OpenIo) (cameraid : Nat) (wrapper : Wrapper) :
    Int × Option WrapperCameraDevice × Wrapper :=
  let device : WrapperCameraDevice := ⟨wrapper.next, cameraid⟩
  let wrapper := { wrapper with next := wrapper.next + 1 }
  if !io.mallocParams then (-enomem, none, { wrapper with fixedSetParams := none })
  else
    let wrapper := wrapper.track (.acquire (.fixedSetParams device.serial))
    let wrapper := { wrapper with fixedSetParams := some fun _ => none }
    if !io.mallocDevice then (-enomem, none, wrapper)
    else
      let wrapper := wrapper.track (.acquire (.cameraDevice device.serial))
      if io.vendorOpen ≠ 0 then
        (io.vendorOpen, none, wrapper.track (.release (.cameraDevice device.serial)))
      else
        let wrapper := wrapper.track (.acquire (.vendor device.serial))
        if !io.mallocOps then
          (-enomem, none, wrapper.track (.release (.cameraDevice device.serial)))
        else
          let wrapper := wrapper.track (.acquire (.cameraOps device.serial))
          (0, some device, { wrapper with devices := wrapper.devices ++ [device] })

/-- `camera_device_open`: the result, what is stored through `device` (`none` if nothing
is, `some none` for a null pointer), and the state. -/
def cameraDeviceOpen (numCameras : Nat) (io : OpenIo) (name : Option (List Byte))
    (wrapper : Wrapper) : Int × Option (Option WrapperCameraDevice) × Wrapper :=
  match name with
  | none => (0, none, wrapper)
  | some name =>
      if !io.checkVendorModule then (-einval, none, wrapper)
      else
        let cameraid := atoi name
        if cameraid < 0 ∨ numCameras ≤ cameraid then (-einval, some none, wrapper)
        else
          let (rv, device, wrapper) := openCamera io cameraid.toNat wrapper
          (rv, some device, wrapper)

/-- `camera_fixup_setparams` from the flattened string on, which `strdup` copies; `none`
if `fixed_set_params` is a null pointer. -/
def cameraFixupSetparams (strdup : Bool) (device : WrapperCameraDevice) (wrapper : Wrapper) :
    Option (Option Nat × Wrapper) :=
  match wrapper.fixedSetParams with
  | none => none
  | some params =>
      let freed := ((params device.id).map Use.release).toList
      let copy := if strdup then some wrapper.next else none
      let allocated := (copy.map Use.acquire).toList
      some (copy, { wrapper with
        fixedSetParams := some (Function.update params device.id copy)
        strings := wrapper.strings ++ freed ++ allocated
        next := wrapper.next + 1 })

/-- `camera_set_parameters`, where the vendor returns `ret`. -/
def cameraSetParameters (strdup : Bool) (ret : Int) (device : Option WrapperCameraDevice)
    (wrapper : Wrapper) : Option (Int × Wrapper) :=
  match device with
  | none => some (-einval, wrapper)
  | some device =>
      match cameraFixupSetparams strdup device wrapper with
      | none => none
      | some (tmp, wrapper) =>
          some (ret, { wrapper with strings := wrapper.strings ++ (tmp.map Use.touch).toList })

/-- `camera_device_close`. With a camera open the vendor module is loaded and counts at
least one camera, so that a null `fixed_set_params` is read. -/
def cameraDeviceClose (numCameras : Nat) (device : Option WrapperCameraDevice)
    (wrapper : Wrapper) : Option (Int × Wrapper) :=
  match device with
  | none => some (-einval, wrapper)
  | some device =>
      match wrapper.fixedSetParams with
      | none => none
      | some params =>
          let freed := (List.range numCameras).filterMap fun i => (params i).map Use.release
          some (0, { wrapper with
            devices := wrapper.devices.erase device
            strings := wrapper.strings ++ freed
            blocks := wrapper.blocks ++ [.release (.vendor device.serial),
              .release (.cameraOps device.serial), .release (.cameraDevice device.serial)] })

/-! ## What an open does -/

/-- No call of `camera_device_open` from the first allocation on fails. -/
def OpenIo.Succeeds (io : OpenIo) : Prop :=
  io.mallocParams = true ∧ io.mallocDevice = true ∧ io.vendorOpen = 0 ∧ io.mallocOps = true

/-- The array was replaced by an empty one or by a null pointer. -/
structure Replaced (wrapper next : Wrapper) : Prop where
  params : next.fixedSetParams = none ∨ next.fixedSetParams = some fun _ => none
  strings : next.strings = wrapper.strings
  serials : next.next = wrapper.next + 1

/-- An `open` either fails without a device or succeeds with a new one for its camera. -/
theorem openCamera_spec (io : OpenIo) (cameraid : Nat) (wrapper : Wrapper) :
    Replaced wrapper (openCamera io cameraid wrapper).2.2 ∧
      (¬ io.Succeeds ∧ (openCamera io cameraid wrapper).1 ≠ 0 ∧
          (openCamera io cameraid wrapper).2.2.devices = wrapper.devices ∨
        io.Succeeds ∧ (openCamera io cameraid wrapper).1 = 0 ∧
          (openCamera io cameraid wrapper).2.2.devices =
            wrapper.devices ++ [⟨wrapper.next, cameraid⟩]) := by
  have failed : -enomem ≠ 0 := by decide
  unfold openCamera OpenIo.Succeeds
  cases params : io.mallocParams with
  | false => exact ⟨⟨Or.inl rfl, rfl, rfl⟩, Or.inl ⟨by simp, failed, rfl⟩⟩
  | true =>
      cases device : io.mallocDevice with
      | false => exact ⟨⟨Or.inr rfl, rfl, rfl⟩, Or.inl ⟨by simp, failed, rfl⟩⟩
      | true =>
          by_cases vendor : io.vendorOpen = 0
          · cases ops : io.mallocOps with
            | false =>
                simp only [vendor]
                exact ⟨⟨Or.inr rfl, rfl, rfl⟩, Or.inl ⟨by simp, failed, rfl⟩⟩
            | true =>
                simp only [vendor]
                exact ⟨⟨Or.inr rfl, rfl, rfl⟩, Or.inr ⟨by simp, rfl, rfl⟩⟩
          · have refused : io.vendorOpen ≠ 0 := vendor
            simp only [Bool.not_true, Bool.false_eq_true, if_false, if_pos refused]
            exact ⟨⟨Or.inr rfl, rfl, rfl⟩, Or.inl ⟨by simp [vendor], vendor, rfl⟩⟩

/-- An open that gets as far as assigning `fixed_set_params`. -/
def OpenIo.Reaches (numCameras : Nat) (io : OpenIo) (name : List Byte) : Prop :=
  io.checkVendorModule = true ∧ 0 ≤ atoi name ∧ atoi name < numCameras

/-- An open changes nothing, or replaces the array and may add a camera to the open ones. -/
theorem cameraDeviceOpen_cases (numCameras : Nat) (io : OpenIo) (name : Option (List Byte))
    (wrapper : Wrapper) :
    (∀ text, name = some text → ¬ io.Reaches numCameras text) ∧
        (cameraDeviceOpen numCameras io name wrapper).2.2 = wrapper ∨
      ∃ text, name = some text ∧ io.Reaches numCameras text ∧
        Replaced wrapper (cameraDeviceOpen numCameras io name wrapper).2.2 ∧
        (¬ io.Succeeds ∧ (cameraDeviceOpen numCameras io name wrapper).1 ≠ 0 ∧
            (cameraDeviceOpen numCameras io name wrapper).2.2.devices = wrapper.devices ∨
          io.Succeeds ∧ (cameraDeviceOpen numCameras io name wrapper).1 = 0 ∧
            (cameraDeviceOpen numCameras io name wrapper).2.2.devices =
              wrapper.devices ++ [⟨wrapper.next, (atoi text).toNat⟩]) := by
  cases name with
  | none => exact Or.inl ⟨nofun, rfl⟩
  | some text =>
      simp only [cameraDeviceOpen]
      by_cases module : io.checkVendorModule = true
      · by_cases range : atoi text < 0 ∨ numCameras ≤ atoi text
        · left
          rw [module, if_neg (by decide), if_pos range]
          refine ⟨?_, rfl⟩
          rintro _ ⟨⟩ reaches
          have := reaches.2
          omega
        · right
          rw [module, if_neg (by decide), if_neg range]
          obtain ⟨replaced, result⟩ := openCamera_spec io (atoi text).toNat wrapper
          exact ⟨text, rfl, ⟨module, by omega, by omega⟩, replaced, result⟩
      · left
        rw [Bool.not_eq_true] at module
        rw [module, if_pos (by decide)]
        refine ⟨?_, rfl⟩
        rintro _ ⟨⟩ reaches
        cases module.symm.trans reaches.1

/-! ## Sequences of calls -/

/-- A call of the camera service with its outcomes. -/
inductive Op where
  | deviceOpen (io : OpenIo) (name : Option (List Byte))
  | setParameters (strdup : Bool) (ret : Int) (device : Option WrapperCameraDevice)
  | deviceClose (device : Option WrapperCameraDevice)

/-- The state after a call; `none` if it reads through a null pointer. -/
def Op.apply (numCameras : Nat) (wrapper : Wrapper) : Op → Option Wrapper
  | .deviceOpen io name => some (cameraDeviceOpen numCameras io name wrapper).2.2
  | .setParameters strdup ret device =>
      (cameraSetParameters strdup ret device wrapper).map Prod.snd
  | .deviceClose device => (cameraDeviceClose numCameras device wrapper).map Prod.snd

/-- The camera service only opens cameras that are not open, and otherwise uses open
devices. -/
def Op.Allowed (wrapper : Wrapper) : Op → Prop
  | .deviceOpen _ (some name) => ∀ device ∈ wrapper.devices, (device.id : Int) ≠ atoi name
  | .deviceOpen _ none => True
  | .setParameters _ _ (some device) => device ∈ wrapper.devices
  | .setParameters _ _ none => True
  | .deviceClose (some device) => device ∈ wrapper.devices
  | .deviceClose none => True

instance (wrapper : Wrapper) (op : Op) : Decidable (op.Allowed wrapper) :=
  match op with
  | .deviceOpen _ (some name) =>
      inferInstanceAs (Decidable (∀ device ∈ wrapper.devices, (device.id : Int) ≠ atoi name))
  | .deviceOpen _ none => .isTrue trivial
  | .setParameters _ _ (some device) => inferInstanceAs (Decidable (device ∈ wrapper.devices))
  | .setParameters _ _ none => .isTrue trivial
  | .deviceClose (some device) => inferInstanceAs (Decidable (device ∈ wrapper.devices))
  | .deviceClose none => .isTrue trivial

/-- Every call of a sequence, as far as it is allowed and runs, meets a condition on the
states before and after it. -/
def AllSteps (numCameras : Nat) (Condition : Wrapper → Op → Wrapper → Prop) :
    Wrapper → List Op → Prop
  | _, [] => True
  | wrapper, op :: rest =>
      ∀ next, op.Allowed wrapper → op.apply numCameras wrapper = some next →
        Condition wrapper op next ∧ AllSteps numCameras Condition next rest

end T00F.Camera
