import T00F.Sensors.Modules

/-!
# Calls on a published handle

`activate`, `setDelay`, `batch` and `flush` of `sensors_poll_context_t` look up the
device of a handle by the index of its sub-module, in a vector that holds only the
devices that opened. `calls_routed_iff` says for which handles they call the device
of the sub-module that listed the sensor.
-/

namespace T00F.Sensors

open Systems

/-- What a call asks of a device, after the handle. -/
inductive Operation where
  | activate (enabled : Int)
  | setDelay (ns : Int)
  | batch (flags periodNs timeout : Int)
  | flush
deriving DecidableEq, Repr

/-- A call of a function of a device. -/
structure DeviceCall where
  device : SubDevice
  handle : Int
  operation : Operation
deriving DecidableEq, Repr

/-- `-EINVAL` -/
def negEinval : Int := -22

/-- The members of a context that the calls read, the static variables, and what the
devices return. -/
structure Context where
  hal : Hal
  subHwDevices : List SubDevice
  respond : DeviceCall → Int

namespace Context

variable (context : Context)

/-- `get_v0_device_by_handle` and `get_v1_device_by_handle`, which return the same device
under two types, or `NULL`. -/
def getV0DeviceByHandle (globalHandle : Int) : Option SubDevice :=
  let subIndex := context.hal.registry.getModuleIndex globalHandle
  if subIndex < 0 ∨ subIndex ≥ context.subHwDevices.length then none
  else context.subHwDevices[subIndex.toNat]?

/-- `get_device_version_by_handle` -/
def getDeviceVersionByHandle (handle : Int) : Int :=
  match context.getV0DeviceByHandle handle with
  | some v0 => v0.version
  | none => -1

def halIsAPILevelCompliant (handle level : Int) : Bool :=
  let version := context.getDeviceVersionByHandle handle
  version != -1 && decide (version ≥ level)

/-- Call a device: the result, and the call. -/
def call (device : SubDevice) (handle : Int) (operation : Operation) : Int × List DeviceCall :=
  (context.respond ⟨device, handle, operation⟩, [⟨device, handle, operation⟩])

/-- The frame of all calls: `body` with the device and the local handle if there are
both, `ignored` otherwise. -/
def withDevice {Result : Type} (handle : Int) (ignored : Result)
    (body : SubDevice → Int → Result) : Result :=
  let localHandle := context.hal.registry.getLocalHandle handle
  match context.getV0DeviceByHandle handle with
  | some device => if localHandle ≥ 0 then body device localHandle else ignored
  | none => ignored

def activate (handle enabled : Int) : Int × List DeviceCall :=
  context.withDevice handle (negEinval, []) fun v0 localHandle =>
    context.call v0 localHandle (.activate enabled)

def setDelay (handle ns : Int) : Int × List DeviceCall :=
  context.withDevice handle (negEinval, []) fun v0 localHandle =>
    context.call v0 localHandle (.setDelay ns)

/-- The branch of `batch` for devices below 1.1: the limits are those of the entry of
`global_sensors_list` at the index of the module, and the handle is not translated.
`none` if there is no such entry. -/
def batchBySetDelay (v1 : SubDevice) (handle periodNs timeout : Int) :
    Option (Int × List DeviceCall) :=
  if periodNs < 0 ∨ timeout < 0 then some (negEinval, [])
  else do
    let subIndex := context.hal.registry.getModuleIndex handle
    let sensor ← (← context.hal.globalSensorsList)[subIndex.toNat]?
    let periodNs :=
      if periodNs < sensor.minDelay then sensor.minDelay
      else if periodNs > sensor.maxDelay then sensor.maxDelay
      else periodNs
    some (context.call v1 handle (.setDelay periodNs))

def batch (handle flags periodNs timeout : Int) : Option (Int × List DeviceCall) :=
  context.withDevice handle (some (negEinval, [])) fun v1 localHandle =>
    if context.halIsAPILevelCompliant handle sensorsDeviceApiVersion11 then
      some (context.call v1 localHandle (.batch flags periodNs timeout))
    else context.batchBySetDelay v1 handle periodNs timeout

def flush (handle : Int) : Int × List DeviceCall :=
  context.withDevice handle (negEinval, []) fun v1 localHandle =>
    if context.halIsAPILevelCompliant handle sensorsDeviceApiVersion11 then
      context.call v1 localHandle .flush
    else (negEinval, [])

end Context

/-! ## Where the calls go -/

/-- A call ends with `-EINVAL` before any device is called, or calls the device of the
module that lists the sensor, with the sensor's local handle. -/
def Routed (full : FullHandle) (result : Int × List DeviceCall) : Prop :=
  result = (negEinval, []) ∨ ∃ call, result.2 = [call] ∧
    call.device.moduleIndex = full.moduleIndex ∧ call.handle = full.localHandle

/-- All calls on a handle are routed to the sensor. -/
structure CallsRouted (context : Context) (handle : Int) (full : FullHandle) : Prop where
  activate : ∀ enabled, Routed full (context.activate handle enabled)
  setDelay : ∀ ns, Routed full (context.setDelay handle ns)
  flush : Routed full (context.flush handle)
  batch : context.halIsAPILevelCompliant handle sensorsDeviceApiVersion11 = true →
    ∀ flags periodNs timeout, ∃ result,
      context.batch handle flags periodNs timeout = some result ∧ Routed full result

namespace Context

variable {context : Context} {handle : Int} {full : FullHandle}

/-- The local handle of a named sensor. -/
theorem getLocalHandle_named (named : context.hal.registry.globalToFull handle = some full) :
    context.hal.registry.getLocalHandle handle = full.localHandle := by
  rw [Registry.getLocalHandle, named]

/-- The device at the index of the module. -/
theorem getV0DeviceByHandle_named {moduleIndex : Nat} {localHandle : Int}
    (named : context.hal.registry.globalToFull handle = some ⟨moduleIndex, localHandle⟩) :
    context.getV0DeviceByHandle handle = context.subHwDevices[moduleIndex]? := by
  have index : context.hal.registry.getModuleIndex handle = moduleIndex := by
    rw [Registry.getModuleIndex, named]
  rw [getV0DeviceByHandle, index]
  split
  next outside => rw [List.getElem?_eq_none (by omega)]
  next => rfl

/-- With a known handle, `body` gets the device at the index of the module and the
local handle. -/
theorem withDevice_named {Result : Type} {ignored : Result} {body : SubDevice → Int → Result}
    {moduleIndex : Nat} {localHandle : Int}
    (named : context.hal.registry.globalToFull handle = some ⟨moduleIndex, localHandle⟩) :
    context.withDevice handle ignored body =
      match context.subHwDevices[moduleIndex]? with
      | some device => if localHandle ≥ 0 then body device localHandle else ignored
      | none => ignored := by
  rw [withDevice, getV0DeviceByHandle_named named, getLocalHandle_named named]

/-- The cases of a call: no device is called, or the right one is. -/
theorem withDevice_cases {Result : Type} (Property : Result → Prop) {ignored : Result}
    {body : SubDevice → Int → Result} {moduleIndex : Nat} {localHandle : Int}
    (named : context.hal.registry.globalToFull handle = some ⟨moduleIndex, localHandle⟩)
    (right : localHandle < 0 ∨ ∀ device, context.subHwDevices[moduleIndex]? = some device →
      device.moduleIndex = moduleIndex)
    (refused : Property ignored)
    (called : ∀ device : SubDevice, device.moduleIndex = moduleIndex →
      Property (body device localHandle)) :
    Property (context.withDevice handle ignored body) := by
  rw [withDevice_named named]
  split
  next device present =>
    split
    next nonnegative =>
      rcases right with negative | right
      · omega
      · exact called device (right device present)
    next => exact refused
  next => exact refused

/-- A call on the device of its module is routed. -/
theorem call_routed {device : SubDevice} {moduleIndex : Nat} (same : device.moduleIndex = moduleIndex)
    (localHandle : Int) (operation : Operation) :
    Routed ⟨moduleIndex, localHandle⟩ (context.call device localHandle operation) :=
  Or.inr ⟨_, rfl, congrArg Nat.cast same, rfl⟩

/-- All calls are routed if no device is called or the device at the index of the
module was opened from it. -/
theorem callsRouted_iff {moduleIndex : Nat} {localHandle : Int}
    (named : context.hal.registry.globalToFull handle = some ⟨moduleIndex, localHandle⟩) :
    CallsRouted context handle ⟨moduleIndex, localHandle⟩ ↔
      localHandle < 0 ∨ ∀ device, context.subHwDevices[moduleIndex]? = some device →
        device.moduleIndex = moduleIndex := by
  constructor
  · intro routed
    rw [or_iff_not_imp_left]
    intro nonnegative device present
    have activated := routed.activate 0
    rw [activate, withDevice_named named, present] at activated
    simp only [ge_iff_le, Int.not_lt.mp nonnegative, if_true] at activated
    rcases activated with refused | ⟨made, calls, same, _⟩
    · cases congrArg Prod.snd refused
    · cases calls
      exact Int.ofNat_inj.mp same
  · intro right
    constructor
    case activate =>
      intro enabled
      exact withDevice_cases (Routed _) named right (Or.inl rfl) fun device same => call_routed same _ _
    case setDelay =>
      intro ns
      exact withDevice_cases (Routed _) named right (Or.inl rfl) fun device same => call_routed same _ _
    case flush =>
      apply withDevice_cases (Routed _) named right (Or.inl rfl)
      intro device same
      split
      · exact call_routed same _ _
      · exact Or.inl rfl
    case batch =>
      intro compliant flags periodNs timeout
      simp only [batch, compliant, if_true]
      apply withDevice_cases (fun result : Option (Int × List DeviceCall) =>
        ∃ done, result = some done ∧ Routed ⟨moduleIndex, localHandle⟩ done) named right
      · exact ⟨_, rfl, Or.inl rfl⟩
      · intro device same
        exact ⟨_, rfl, call_routed same _ _⟩

end Context

/-- In every state that calls of `open_sensors` and `get_sensors_list` can reach, and for
a context of any call of `open_sensors`, the calls on a published handle are routed to
the sensor exactly if its local handle is negative, or too few modules opened to have a
device at the index of its module, or that module and all before it opened. -/
theorem calls_routed_iff {modules : List SubModule} {hal : Hal}
    (reachable : (sensorsModule modules).Reachable hal) {sensors : List Sensor}
    (published : hal.globalSensorsList = some sensors) {place : Nat} {sensor : Sensor}
    (entry : sensors[place]? = some sensor) {moduleIndex : Nat} {localHandle : Int}
    (listed : (listing modules)[place]? = some ⟨moduleIndex, localHandle⟩)
    (results : Nat → Option Int) (respond : DeviceCall → Int) :
    CallsRouted ⟨hal, (openSensors hal results).1, respond⟩ sensor.handle
        ⟨moduleIndex, localHandle⟩ ↔
      localHandle < 0 ∨
      ((List.range modules.length).countP fun index => (results index).isSome) ≤ moduleIndex ∨
      ∀ index ≤ moduleIndex, (results index).isSome := by
  have same := (reachable_sound reachable).subHwModules
  obtain ⟨full, found, named⟩ := published_listed reachable published entry
  cases found.symm.trans listed
  rw [Context.callsRouted_iff named]
  have length := length_openModules results modules 0
  rw [← List.range_eq_range'] at length
  simp only [openSensors, same, ← length]
  apply or_congr Iff.rfl
  constructor
  · intro right
    rw [or_iff_not_imp_left]
    intro inside
    have device := List.getElem?_eq_getElem (Nat.not_le.mp inside)
    have opened := (openModules_getElem device).mp (by rw [right _ device, Nat.zero_add])
    intro index low
    exact opened index (Nat.zero_le _) (by omega)
  · intro condition device found
    rcases condition with outside | opened
    · rw [List.getElem?_eq_none outside] at found
      cases found
    · have same := (openModules_getElem found).mpr fun index _ low => opened index (by omega)
      omega

/-- A proximity sensor in the second of three modules. The first lists nothing. -/
def threeModules : List SubModule :=
  [⟨0, []⟩, ⟨1, [⟨5, 8, 0, 200000, 0⟩]⟩, ⟨2, [⟨7, 1, 10000, 200000, 0⟩]⟩]

/-- One module with one sensor. -/
def oneModule (sensor : Sensor) : List SubModule := [⟨0, [sensor]⟩]

/-- The state after `open_sensors` and `get_sensors_list`. -/
def listAfterOpen (modules : List SubModule) (results : Nat → Option Int) : Option Hal :=
  lazyInitSensorsList (openSensors (.loaded modules) results).2

/-- The list after `open` is in a reachable state. -/
theorem listAfterOpen_reachable {modules : List SubModule} {results : Nat → Option Int} {hal : Hal}
    (ran : listAfterOpen modules results = some hal) : (sensorsModule modules).Reachable hal :=
  .step (.step (.initial rfl) (.openSensors _ results)) (.getSensorsList ran)

/-- If all modules open, the calls on the first handle go to the second module. -/
theorem calls_routed_opened :
    let results := fun _ => some sensorsDeviceApiVersion13
    ∃ hal, listAfterOpen threeModules results = some hal ∧
      CallsRouted ⟨hal, (openSensors hal results).1, fun _ => 0⟩ 1 ⟨1, 5⟩ := by
  intro results
  refine ⟨_, rfl, ?_⟩
  have ran : listAfterOpen threeModules results = some _ := rfl
  have entry : (listing threeModules)[0]? = some ⟨(1 : Nat), 5⟩ := rfl
  exact (calls_routed_iff (listAfterOpen_reachable ran) rfl rfl entry results _).mpr
    (Or.inr (Or.inr fun _ _ => rfl))

/-- If the first module fails to open, the first handle, a sensor of the second module,
activates a sensor of the third. -/
theorem calls_misrouted :
    let results := fun index => if index = 0 then none else some sensorsDeviceApiVersion13
    ∃ hal, listAfterOpen threeModules results = some hal ∧
      ¬ CallsRouted ⟨hal, (openSensors hal results).1, fun _ => 0⟩ 1 ⟨1, 5⟩ := by
  intro results
  refine ⟨_, rfl, fun routed => ?_⟩
  rcases routed.activate 1 with refused | ⟨call, calls, right, _⟩
  · cases congrArg Prod.snd refused
  · cases calls
    cases right

end T00F.Sensors
