import T00F.Sensors.Calls

/-!
# Injecting events

`inject_sensor_data` hands the event and the device pointer that the framework passed to
the sub-HAL, without translating either. `inject_right_iff` says that an injection is
right only if no device is called.
-/

namespace T00F.Sensors

/-- `SENSORS_DEVICE_API_VERSION_1_4` -/
def sensorsDeviceApiVersion14 : Int := 0x01040001

/-- The devices that a pointer may point to: the one that `open_sensors` returns, and
those of the sub-modules. -/
inductive DevicePointer where
  | proxy
  | sub (device : SubDevice)
deriving DecidableEq, Repr

/-- A call of `inject_sensor_data` of `device` with its two arguments. -/
structure InjectCall where
  device : SubDevice
  dev : DevicePointer
  data : SensorsEvent
deriving DecidableEq, Repr

namespace Context

variable (context : Context)

/-- `sensors_poll_context_t::inject_sensor_data`; `respond` is what the devices return. -/
def injectSensorData (respond : InjectCall → Int) (dev : DevicePointer) (data : SensorsEvent) :
    Int × List InjectCall :=
  let localHandle := context.hal.registry.getLocalHandle data.sensor
  match context.getV0DeviceByHandle data.sensor with
  | some v1 =>
      if context.halIsAPILevelCompliant data.sensor sensorsDeviceApiVersion14 ∧
          localHandle ≥ 0 then
        (respond ⟨v1, dev, data⟩, [⟨v1, dev, data⟩])
      else (negEinval, [])
  | none => (negEinval, [])

/-- `device__inject_sensor_data`: the context is the proxy device itself. -/
def deviceInjectSensorData (respond : InjectCall → Int) (data : SensorsEvent) :
    Int × List InjectCall :=
  context.injectSensorData respond .proxy data

end Context

/-- A call on a device gets a pointer to it and the event under the local handle of the
sensor, which the copy for `poll` turns back into the global handle. -/
structure InjectedRight (registry : Registry) (full : FullHandle) (event : SensorsEvent)
    (call : InjectCall) : Prop where
  dev : call.dev = .sub call.device
  data : call.data = { event with sensor := full.localHandle }
  remapped : (copyEventRemapHandle registry call.data full.moduleIndex.toNat).sensor = event.sensor

namespace Context

variable {context : Context} {full : FullHandle} {event : SensorsEvent}

/-- A device is called, with the arguments as they came, for a device of level 1.4 and a
handle that is no error. -/
theorem mem_injectSensorData (named : context.hal.registry.globalToFull event.sensor = some full)
    (respond : InjectCall → Int) (dev : DevicePointer) (call : InjectCall) :
    call ∈ (context.injectSensorData respond dev event).2 ↔
      context.halIsAPILevelCompliant event.sensor sensorsDeviceApiVersion14 = true ∧
        0 ≤ full.localHandle ∧ ∃ device,
          context.getV0DeviceByHandle event.sensor = some device ∧ call = ⟨device, dev, event⟩ := by
  rw [injectSensorData, getLocalHandle_named named]
  cases context.getV0DeviceByHandle event.sensor with
  | none => simp
  | some device =>
      by_cases called :
          context.halIsAPILevelCompliant event.sensor sensorsDeviceApiVersion14 = true ∧
            full.localHandle ≥ 0
      · simp [called.1, called.2]
      · simp only [if_neg called, List.not_mem_nil, false_iff]
        rintro ⟨compliant, nonnegative, _⟩
        exact called ⟨compliant, nonnegative⟩

/-- A device whose level is high enough is there. -/
theorem exists_of_compliant {handle level : Int}
    (compliant : context.halIsAPILevelCompliant handle level = true) :
    ∃ device, context.getV0DeviceByHandle handle = some device := by
  cases found : context.getV0DeviceByHandle handle with
  | none => simp [halIsAPILevelCompliant, getDeviceVersionByHandle, found] at compliant
  | some device => exact ⟨device, rfl⟩

/-- With any pointer, the call is right exactly if the pointer is that of the device and
the local handle happens to be the global one, which the registry gives back. -/
theorem injectSensorData_right_iff
    (named : context.hal.registry.globalToFull event.sensor = some full)
    (respond : InjectCall → Int) (dev : DevicePointer) :
    (∀ call ∈ (context.injectSensorData respond dev event).2,
        InjectedRight context.hal.registry full event call) ↔
      (context.halIsAPILevelCompliant event.sensor sensorsDeviceApiVersion14 = true →
        0 ≤ full.localHandle → (context.getV0DeviceByHandle event.sensor).map .sub = some dev ∧
          event.sensor = full.localHandle ∧
          (copyEventRemapHandle context.hal.registry event full.moduleIndex.toNat).sensor =
            event.sensor) := by
  constructor
  · intro right compliant nonnegative
    obtain ⟨device, found⟩ := exists_of_compliant compliant
    obtain ⟨own, data, remapped⟩ := right ⟨device, dev, event⟩
      ((mem_injectSensorData named respond dev _).mpr
        ⟨compliant, nonnegative, device, found, rfl⟩)
    refine ⟨?_, congrArg SensorsEvent.sensor data, remapped⟩
    rw [found, Option.map_some]
    exact congrArg some own.symm
  · intro right call member
    obtain ⟨compliant, nonnegative, device, found, rfl⟩ :=
      (mem_injectSensorData named respond dev call).mp member
    obtain ⟨own, same, remapped⟩ := right compliant nonnegative
    rw [found, Option.map_some] at own
    exact ⟨(Option.some.inj own).symm, by rw [← same], remapped⟩

end Context

/-- An event for a sensor of a device of level 1.4 is injected right exactly if its local
handle is an error, so that no device is called. -/
theorem inject_right_iff {context : Context} {event : SensorsEvent} {full : FullHandle}
    (named : context.hal.registry.globalToFull event.sensor = some full)
    (compliant : context.halIsAPILevelCompliant event.sensor sensorsDeviceApiVersion14 = true)
    (respond : InjectCall → Int) :
    (∀ call ∈ (context.deviceInjectSensorData respond event).2,
      InjectedRight context.hal.registry full event call) ↔ full.localHandle < 0 := by
  rw [Context.deviceInjectSensorData, Context.injectSensorData_right_iff named]
  constructor
  · intro right
    by_contra nonnegative
    obtain ⟨own, _⟩ := right compliant (Int.not_lt.mp nonnegative)
    obtain ⟨device, _, proxy⟩ := Option.map_eq_some_iff.mp own
    cases proxy
  · intro negative _ nonnegative
    omega

/-- An accelerometer event for handle 1. -/
def injectedEvent : SensorsEvent := ⟨104, 1, 1, 0, 0, 0, []⟩

/-- A sensor whose local handle is -1 is not injected. -/
theorem inject_right_error :
    let results := fun _ => some sensorsDeviceApiVersion14
    ∃ hal, listAfterOpen (oneModule ⟨-1, 1, 10000, 200000, 0⟩) results = some hal ∧
      ∀ call ∈ (Context.deviceInjectSensorData ⟨hal, (openSensors hal results).1, fun _ => 0⟩
          (fun _ => 0) injectedEvent).2,
        InjectedRight hal.registry ⟨0, -1⟩ injectedEvent call := by
  intro results
  refine ⟨_, rfl, ?_⟩
  exact (inject_right_iff rfl rfl _).mpr (by decide)

/-- Under handle 5 the sub-HAL is asked for handle 1, with the pointer of the proxy. -/
theorem inject_untranslated :
    let results := fun _ => some sensorsDeviceApiVersion14
    ∃ hal, listAfterOpen (oneModule ⟨5, 1, 10000, 200000, 0⟩) results = some hal ∧
      ¬ ∀ call ∈ (Context.deviceInjectSensorData ⟨hal, (openSensors hal results).1, fun _ => 0⟩
          (fun _ => 0) injectedEvent).2,
        InjectedRight hal.registry ⟨0, 5⟩ injectedEvent call := by
  intro results
  refine ⟨_, rfl, fun right => ?_⟩
  cases (right ⟨⟨0, sensorsDeviceApiVersion14⟩, .proxy, injectedEvent⟩ List.mem_cons_self).dev

end T00F.Sensors
