import T00F.Sensors.Calls

/-!
# Batching on old devices

The branch of `batch` for devices below API level 1.1, which calls `setDelay` of the
device instead. It takes the limits of another entry of the list in another unit, and the
global handle: `batch_clamps_iff` says when that makes no difference.
-/

namespace T00F.Sensors

open Systems

/-- A delay between two limits, compared in the order of `batch`. -/
def clampDelay (minDelay maxDelay ns : Int) : Int :=
  if ns < minDelay then minDelay else if ns > maxDelay then maxDelay else ns

/-- When two clamps of one period agree. -/
theorem clampDelay_eq_iff {low high low' high' ns : Int} :
    clampDelay low high ns = clampDelay low' high' ns ↔
      ns < low ∧ low = low' ∨
      low ≤ ns ∧ low' ≤ ns ∧
        (high < ns ∧ high = high' ∨ ns ≤ high ∧ ns ≤ high') := by
  unfold clampDelay
  split_ifs <;> omega

/-- The period within the limits of the sensor. `sensor_t` has them in microseconds. -/
def ownPeriod (sensor : Sensor) (periodNs : Int) : Int :=
  clampDelay (1000 * sensor.minDelay) (1000 * sensor.maxDelay) periodNs

/-- `batch` calls `setDelay` of the device of the sensor with its local handle and the
period within its limits, as `setDelay` with that period does. -/
structure BatchClamps (context : Context) (sensor : Sensor) (device : SubDevice)
    (localHandle flags periodNs timeout : Int) : Prop where
  called : context.batch sensor.handle flags periodNs timeout =
    some (context.call device localHandle (.setDelay (ownPeriod sensor periodNs)))
  asSetDelay : context.batch sensor.handle flags periodNs timeout =
    some (context.setDelay sensor.handle (ownPeriod sensor periodNs))

/-- The limits of an entry leave the period where those of the sensor do. -/
def LimitsAgree (entry sensor : Sensor) (periodNs : Int) : Prop :=
  periodNs < entry.minDelay ∧ entry.minDelay = 1000 * sensor.minDelay ∨
  entry.minDelay ≤ periodNs ∧ 1000 * sensor.minDelay ≤ periodNs ∧
    (entry.maxDelay < periodNs ∧ entry.maxDelay = 1000 * sensor.maxDelay ∨
      periodNs ≤ entry.maxDelay ∧ periodNs ≤ 1000 * sensor.maxDelay)

namespace Context

variable {context : Context} {handle : Int} {moduleIndex : Nat} {localHandle : Int}

/-- Whichever branch it takes, `batch` calls the device at the index of the module. -/
theorem batch_device (named : context.hal.registry.globalToFull handle =
      some ⟨moduleIndex, localHandle⟩) {device : SubDevice} {called : Int} {operation : Operation}
    {flags periodNs timeout : Int} (made : context.batch handle flags periodNs timeout =
      some (context.call device called operation)) :
    context.subHwDevices[moduleIndex]? = some device ∧ 0 ≤ localHandle := by
  have calls : ∀ {v1 : SubDevice} {other : Int} {asked : Operation},
      context.call v1 other asked = context.call device called operation → v1 = device := by
    intro v1 other asked same
    exact congrArg DeviceCall.device (List.cons.inj (congrArg Prod.snd same)).1
  rw [batch, withDevice_named named] at made
  cases present : context.subHwDevices[moduleIndex]? with
  | none =>
      rw [present] at made
      cases congrArg Prod.snd (Option.some.inj made)
  | some v1 =>
      simp only [present] at made
      by_cases nonnegative : localHandle ≥ 0
      · rw [if_pos nonnegative] at made
        refine ⟨congrArg some ?_, nonnegative⟩
        split at made
        · exact calls (Option.some.inj made)
        · rw [batchBySetDelay] at made
          split at made
          · cases congrArg Prod.snd (Option.some.inj made)
          · obtain ⟨_, _, made⟩ := Option.bind_eq_some_iff.mp made
            obtain ⟨_, _, made⟩ := Option.bind_eq_some_iff.mp made
            exact calls (Option.some.inj made)
      · rw [if_neg nonnegative] at made
        cases congrArg Prod.snd (Option.some.inj made)

/-- What `batch` does with a device below 1.1. -/
theorem batch_old (named : context.hal.registry.globalToFull handle =
      some ⟨moduleIndex, localHandle⟩) {device : SubDevice}
    (present : context.subHwDevices[moduleIndex]? = some device)
    (old : device.version < sensorsDeviceApiVersion11) (nonnegative : 0 ≤ localHandle)
    {sensors : List Sensor} (published : context.hal.globalSensorsList = some sensors)
    (flags : Int) {periodNs timeout : Int} (period : 0 ≤ periodNs) (timely : 0 ≤ timeout) :
    context.batch handle flags periodNs timeout = sensors[moduleIndex]?.map fun entry =>
      context.call device handle
        (.setDelay (clampDelay entry.minDelay entry.maxDelay periodNs)) := by
  have found : context.getV0DeviceByHandle handle = some device :=
    (getV0DeviceByHandle_named named).trans present
  have below : context.halIsAPILevelCompliant handle sensorsDeviceApiVersion11 = false := by
    simp only [halIsAPILevelCompliant, getDeviceVersionByHandle, found]
    rw [decide_eq_false (Int.not_le.mpr old), Bool.and_false]
  have index : context.hal.registry.getModuleIndex handle = moduleIndex := by
    rw [Registry.getModuleIndex, named]
  have valid : ¬ (periodNs < 0 ∨ timeout < 0) := by omega
  rw [batch, withDevice_named named, present]
  simp only [ge_iff_le, nonnegative, if_true, below, Bool.false_eq_true, if_false]
  rw [batchBySetDelay, if_neg valid, published, index]
  simp only [Option.bind_eq_bind, Option.bind_some, Int.toNat_natCast]
  cases sensors[moduleIndex]? with
  | none => rfl
  | some entry => rfl

/-- On a named sensor of an open device the period goes to its module. -/
theorem setDelay_named (named : context.hal.registry.globalToFull handle =
      some ⟨moduleIndex, localHandle⟩) {device : SubDevice}
    (present : context.subHwDevices[moduleIndex]? = some device) (nonnegative : 0 ≤ localHandle)
    (ns : Int) : context.setDelay handle ns = context.call device localHandle (.setDelay ns) := by
  rw [setDelay, withDevice_named named, present]
  simp only [ge_iff_le, nonnegative, if_true]

end Context

/-! ## When the branch is right -/

/-- Two calls to one device agree only on the same handle and period. -/
theorem setDelay_call_inj {context : Context} {device : SubDevice} {handle handle' ns ns' : Int}
    (same : context.call device handle (.setDelay ns) =
      context.call device handle' (.setDelay ns')) : handle = handle' ∧ ns = ns' := by
  obtain ⟨_, handles, operations⟩ :=
    DeviceCall.mk.inj (List.cons.inj (congrArg Prod.snd same)).1
  exact ⟨handles, Operation.setDelay.inj operations⟩

/-- For a published handle whose device is below 1.1, `batch` is `setDelay` with the
clamped period exactly if the local handle is no error and the same as the published one,
the modules before that of the sensor opened, and the entry of the list at the index of
the module leaves the period where the limits of the sensor in nanoseconds do. -/
theorem batch_clamps_iff {modules : List SubModule} {hal : Hal}
    (reachable : (sensorsModule modules).Reachable hal) {sensors : List Sensor}
    (published : hal.globalSensorsList = some sensors) {place : Nat} {sensor : Sensor}
    (entry : sensors[place]? = some sensor) {moduleIndex : Nat} {localHandle : Int}
    (listed : (listing modules)[place]? = some ⟨moduleIndex, localHandle⟩)
    {results : Nat → Option Int} {version : Int} (opened : results moduleIndex = some version)
    (old : version < sensorsDeviceApiVersion11) (respond : DeviceCall → Int) (flags : Int)
    {periodNs timeout : Int} (period : 0 ≤ periodNs) (timely : 0 ≤ timeout) :
    BatchClamps ⟨hal, (openSensors hal results).1, respond⟩ sensor ⟨moduleIndex, version⟩
        localHandle flags periodNs timeout ↔
      0 ≤ localHandle ∧ sensor.handle = localHandle ∧
        (∀ index < moduleIndex, (results index).isSome) ∧
        ∃ other, sensors[moduleIndex]? = some other ∧ LimitsAgree other sensor periodNs := by
  have same := (reachable_sound reachable).subHwModules
  obtain ⟨full, found, named⟩ := published_listed reachable published entry
  cases found.symm.trans listed
  let context : Context := ⟨hal, (openSensors hal results).1, respond⟩
  have devices : context.subHwDevices = (openModules results 0 modules).1 := by
    simp only [context, openSensors, same]
  have agree : ∀ other : Sensor, LimitsAgree other sensor periodNs ↔
      clampDelay other.minDelay other.maxDelay periodNs = ownPeriod sensor periodNs :=
    fun _ => clampDelay_eq_iff.symm
  have batched := fun (present : context.subHwDevices[moduleIndex]? = some ⟨moduleIndex, version⟩)
    nonnegative => Context.batch_old named present old nonnegative published flags period timely
  constructor
  · rintro ⟨called, _⟩
    obtain ⟨present, nonnegative⟩ := Context.batch_device named called
    rw [batched present nonnegative] at called
    obtain ⟨other, limits, call⟩ := Option.map_eq_some_iff.mp called
    obtain ⟨handles, periods⟩ := setDelay_call_inj call
    rw [devices] at present
    have all := (openModules_getElem present).mp (Nat.zero_add _).symm
    exact ⟨nonnegative, handles, fun index before => all index (Nat.zero_le _) (by omega), other,
      limits, (agree other).mpr periods⟩
  · rintro ⟨nonnegative, handles, before, other, limits, periods⟩
    obtain ⟨offset, inside, index⟩ := mem_listingFrom (List.mem_of_getElem? listed)
    have present : context.subHwDevices[moduleIndex]? = some ⟨moduleIndex, version⟩ := by
      have bound : moduleIndex < modules.length := by
        have cast : (moduleIndex : Int) = (0 + offset : Nat) := index
        omega
      rw [← Nat.zero_add moduleIndex] at opened
      rw [devices, openModules_opened bound (fun index _ low => before index (by omega)) opened,
        Nat.zero_add]
    have called : context.batch sensor.handle flags periodNs timeout =
        some (context.call ⟨moduleIndex, version⟩ localHandle
          (.setDelay (ownPeriod sensor periodNs))) := by
      rw [batched present nonnegative, limits, Option.map_some, (agree other).mp periods, handles]
    refine ⟨called, called.trans (congrArg some ?_)⟩
    exact (Context.setDelay_named named present nonnegative _).symm

/-- `SENSORS_DEVICE_API_VERSION_1_0` -/
def sensorsDeviceApiVersion10 : Int := 0x01000001

/-- A sensor of 10 to 200 ms and one of 10 to 200 microseconds. -/
def twoSensors : List SubModule := [⟨0, [⟨1, 1, 10000, 200000, 0⟩, ⟨2, 1, 10, 200, 0⟩]⟩]

/-- The second is set to 10000 ns when 5000 ns are asked for: the limits of the first in
microseconds are its own in nanoseconds. -/
theorem batch_clamps_second :
    let results := fun _ => some sensorsDeviceApiVersion10
    ∃ hal, listAfterOpen twoSensors results = some hal ∧
      BatchClamps ⟨hal, (openSensors hal results).1, fun _ => 0⟩ ⟨2, 1, 10, 200, 0⟩
        ⟨0, sensorsDeviceApiVersion10⟩ 2 0 5000 0 ∧
      ownPeriod ⟨2, 1, 10, 200, 0⟩ 5000 = 10000 := by
  intro results
  refine ⟨_, rfl, ?_, by decide⟩
  have ran : listAfterOpen twoSensors results = some _ := rfl
  have entry : (listing twoSensors)[1]? = some ⟨(0 : Nat), 2⟩ := rfl
  refine (batch_clamps_iff (listAfterOpen_reachable ran) rfl rfl entry rfl (by decide) _ 0
    (by decide) (by decide)).mpr ⟨by decide, rfl, nofun, _, rfl, ?_⟩
  unfold LimitsAgree
  decide

/-- A sensor of 10 to 200 ms is set to 200 microseconds, whatever period is asked for. -/
theorem batch_microseconds :
    let results := fun _ => some sensorsDeviceApiVersion10
    ∃ hal, listAfterOpen (oneModule ⟨1, 1, 10000, 200000, 0⟩) results = some hal ∧
      ¬ BatchClamps ⟨hal, (openSensors hal results).1, fun _ => 0⟩ ⟨1, 1, 10000, 200000, 0⟩
        ⟨0, sensorsDeviceApiVersion10⟩ 1 0 66000000 0 := by
  intro results
  refine ⟨_, rfl, fun clamps => ?_⟩
  obtain ⟨_, periods⟩ := setDelay_call_inj (Option.some.inj clamps.called)
  exact absurd periods (by decide)

end T00F.Sensors
