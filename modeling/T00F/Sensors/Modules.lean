import T00F.Sensors.Registry
import T00F.Systems.Transition

/-!
# Sub-modules and the published list of sensors

`open_sensors` opens every sub-module and remembers the devices of those that open;
`lazy_init_sensors_list` gives every sensor of every sub-module a global handle.
`published_listed` says, for every order of the two, that a published handle stands
for the sensor at its place in `listing`.
-/

namespace T00F.Sensors

open Systems

/-- `sensor_t` -/
structure Sensor where
  handle : Int
  type : Int
  minDelay : Int
  maxDelay : Int
  flags : Int
deriving DecidableEq, Repr

/-- A `hw_module_t`: its address and what its `get_sensors_list` returns. -/
structure SubModule where
  address : Nat
  sensors : List Sensor
deriving DecidableEq, Repr

/-- A device, with the index of the sub-module that it was opened from. -/
structure SubDevice where
  moduleIndex : Nat
  version : Int
deriving DecidableEq, Repr

/-- `sub_hw_versions`; earlier entries hide later ones. -/
abbrev Versions := List (Nat × Int)

/-- The static variables. `subHwVersions` and `globalSensorsList` may be `NULL`. -/
structure Hal where
  subHwModules : List SubModule
  subHwVersions : Option Versions
  registry : Registry
  globalSensorsList : Option (List Sensor)

/-! ## Opening the sub-modules -/

/-- The loop of `open_sensors` from module `index` on. `results` gives the API level of
the device of each module whose `open` succeeds. -/
def openModules (results : Nat → Option Int) : Nat → List SubModule → List SubDevice × Versions
  | _, [] => ([], [])
  | index, module :: rest =>
      let (devices, versions) := openModules results (index + 1) rest
      match results index with
      | none => (devices, versions)
      | some version => (⟨index, version⟩ :: devices, (module.address, version) :: versions)

/-- `open_sensors`: `sub_hw_devices` of the new context. -/
def openSensors (hal : Hal) (results : Nat → Option Int) : List SubDevice × Hal :=
  let (devices, versions) := openModules results 0 hal.subHwModules
  (devices, { hal with subHwVersions := some versions })

/-- Devices are opened in the order of the modules, so the device at a place is opened
from the module with that index, or a later one if a module before it failed. -/
theorem openModules_getElem {results : Nat → Option Int} {modules : List SubModule}
    {start place : Nat} {device : SubDevice}
    (found : (openModules results start modules).1[place]? = some device) :
    device.moduleIndex = start + place ↔
      ∀ index, start ≤ index → index ≤ start + place → (results index).isSome := by
  suffices start + place ≤ device.moduleIndex ∧ (device.moduleIndex = start + place ↔
      ∀ index, start ≤ index → index ≤ start + place → (results index).isSome) from this.2
  induction modules generalizing start place with
  | nil => cases found
  | cons module rest ih =>
      unfold openModules at found
      cases result : results start with
      | none =>
          simp only [result] at found
          obtain ⟨later, _⟩ := ih found
          refine ⟨by omega, ?_⟩
          constructor
          · intro same
            omega
          · intro opened
            have first := opened start (Nat.le_refl _) (Nat.le_add_right _ _)
            rw [result] at first
            cases first
      | some version =>
          simp only [result] at found
          cases place with
          | zero =>
              cases found
              refine ⟨Nat.le_refl _, fun _ index low high => ?_, fun _ => rfl⟩
              have first : index = start := Nat.le_antisymm high low
              rw [first, result]
              rfl
          | succ place =>
              obtain ⟨later, same⟩ := ih found
              have shift : start + 1 + place = start + (place + 1) := by omega
              rw [shift] at later same
              refine ⟨later, same.trans ?_⟩
              constructor
              · intro opened index low high
                rcases Nat.eq_or_lt_of_le low with first | after
                · rw [← first, result]
                  rfl
                · exact opened index after high
              · intro opened index low high
                exact opened index (by omega) high

/-- One device is pushed for each module whose `open` succeeds. -/
theorem length_openModules (results : Nat → Option Int) (modules : List SubModule) (start : Nat) :
    (openModules results start modules).1.length =
      (List.range' start modules.length).countP fun index => (results index).isSome := by
  induction modules generalizing start with
  | nil => rfl
  | cons module rest ih =>
      unfold openModules
      rw [List.length_cons, List.range'_succ, List.countP_cons, ← ih]
      cases result : results start with
      | none => simp
      | some version => simp

/-- If the modules up to a place opened, the device at that place is the one of the
module with its index. -/
theorem openModules_opened {results : Nat → Option Int} {modules : List SubModule}
    {start place : Nat} (inside : place < modules.length)
    (before : ∀ index, start ≤ index → index < start + place → (results index).isSome)
    {version : Int} (opened : results (start + place) = some version) :
    (openModules results start modules).1[place]? = some ⟨start + place, version⟩ := by
  induction modules generalizing start place with
  | nil => cases inside
  | cons module rest ih =>
      unfold openModules
      cases place with
      | zero =>
          rw [Nat.add_zero] at opened
          simp [opened]
      | succ place =>
          have shift : start + 1 + place = start + (place + 1) := by omega
          obtain ⟨first, succeeded⟩ := Option.isSome_iff_exists.mp
            (before start (Nat.le_refl _) (by omega))
          have next := ih (Nat.lt_of_succ_lt_succ inside)
            (fun index low high => before index (by omega) (by omega)) (shift ▸ opened)
          rw [shift] at next
          simp only [succeeded, List.getElem?_cons_succ]
          exact next

/-! ## Listing the sensors -/

/-- `SENSOR_TYPE_PROXIMITY` -/
def sensorTypeProximity : Int := 8

/-- `SENSOR_TYPE_TILT_DETECTOR` -/
def sensorTypeTiltDetector : Int := 22

/-- `SENSOR_FLAG_WAKE_UP | SENSOR_FLAG_ON_CHANGE_MODE` -/
def sensorFlagWakeUpOnChangeMode : Int := 3

/-- `SENSORS_DEVICE_API_VERSION_1_1` -/
def sensorsDeviceApiVersion11 : Int := 0x01010001

/-- `SENSORS_DEVICE_API_VERSION_1_3` -/
def sensorsDeviceApiVersion13 : Int := 0x01030001

/-- `fix_sensor_flags` -/
def fixSensorFlags (version : Int) (sensor : Sensor) : Sensor :=
  if version < sensorsDeviceApiVersion13 then
    if sensor.type = sensorTypeProximity ∨ sensor.type = sensorTypeTiltDetector then
      { sensor with flags := sensorFlagWakeUpOnChangeMode }
    else sensor
  else sensor

/-- The inner loop of `lazy_init_sensors_list`, which appends the sensors of a module.
A missing map or entry aborts. -/
def copySensors (versions : Option Versions) (moduleIndex : Nat) (module : SubModule) :
    List Sensor → Registry × List Sensor → Option (Registry × List Sensor)
  | [], listed => some listed
  | localSensor :: rest, (registry, sensors) => do
      let (globalHandle, registry) := registry.assignGlobalHandle moduleIndex localSensor.handle
      let version ← (← versions).lookup module.address
      let sensor := fixSensorFlags version { localSensor with handle := globalHandle }
      copySensors versions moduleIndex module rest (registry, sensors ++ [sensor])

/-- The outer loop, from module `moduleIndex` on. -/
def copyModules (versions : Option Versions) :
    Nat → List SubModule → Registry × List Sensor → Option (Registry × List Sensor)
  | _, [], listed => some listed
  | moduleIndex, module :: rest, listed => do
      let listed ← copySensors versions moduleIndex module module.sensors listed
      copyModules versions (moduleIndex + 1) rest listed

/-- `lazy_init_sensors_list`; `none` if it aborts. -/
def lazyInitSensorsList (hal : Hal) : Option Hal :=
  match hal.globalSensorsList with
  | some _ => some hal
  | none => do
      let (registry, sensors) ← copyModules hal.subHwVersions 0 hal.subHwModules (hal.registry, [])
      some
        { hal with
          registry := registry
          globalSensorsList := some sensors
          subHwVersions := none }

/-- The sensors that the modules list, in order, from module `index` on. -/
def listingFrom : Nat → List SubModule → List FullHandle
  | _, [] => []
  | index, module :: rest =>
      module.sensors.map (fun sensor => ⟨index, sensor.handle⟩) ++ listingFrom (index + 1) rest

def listing (modules : List SubModule) : List FullHandle := listingFrom 0 modules

/-- A listed handle names the index of one of the modules. -/
theorem mem_listingFrom {start : Nat} {modules : List SubModule} {full : FullHandle}
    (member : full ∈ listingFrom start modules) :
    ∃ offset < modules.length, full.moduleIndex = (start + offset : Nat) := by
  induction modules generalizing start with
  | nil => cases member
  | cons module rest ih =>
      rcases List.mem_append.mp member with own | later
      · obtain ⟨_, _, rfl⟩ := List.mem_map.mp own
        exact ⟨0, Nat.succ_pos _, rfl⟩
      · obtain ⟨offset, inside, index⟩ := ih later
        refine ⟨offset + 1, Nat.succ_lt_succ inside, ?_⟩
        rw [index]
        congr 1
        omega

/-- Handles are places in the list, counted from one, and name what is listed there. -/
structure Listed (registry : Registry) (sensors : List Sensor) (fulls : List FullHandle) :
    Prop where
  nextGlobalHandle : registry.nextGlobalHandle = sensors.length + 1
  length : fulls.length = sensors.length
  handle : ∀ (place : Nat) sensor, sensors[place]? = some sensor → sensor.handle = place + 1
  named : ∀ (place : Nat) full, fulls[place]? = some full →
    registry.globalToFull (place + 1) = some full

/-- Fixing the flags leaves the handle. -/
theorem fixSensorFlags_handle (version : Int) (sensor : Sensor) :
    (fixSensorFlags version sensor).handle = sensor.handle := by
  unfold fixSensorFlags
  split_ifs
  · rfl
  · rfl
  · rfl

/-- Before anything is copied the registry lists nothing. -/
theorem empty_listed : Listed .empty [] [] where
  nextGlobalHandle := rfl
  length := rfl
  handle _ _ absent := by cases absent
  named _ _ absent := by cases absent

/-- Appending a sensor under a new handle. -/
theorem Listed.assign {registry : Registry} {sensors : List Sensor} {fulls : List FullHandle}
    (listed : Listed registry sensors fulls) {moduleIndex localHandle : Int} {sensor : Sensor}
    (assigned : sensor.handle = (registry.assignGlobalHandle moduleIndex localHandle).1) :
    Listed (registry.assignGlobalHandle moduleIndex localHandle).2 (sensors ++ [sensor])
      (fulls ++ [⟨moduleIndex, localHandle⟩]) := by
  have next := listed.nextGlobalHandle
  have length := listed.length
  constructor
  case nextGlobalHandle =>
    rw [List.length_append]
    simp only [Registry.assignGlobalHandle, next, List.length_singleton]
    omega
  case length => simp [length]
  case handle =>
    intro place other found
    rcases Nat.lt_trichotomy place sensors.length with before | same | after
    · rw [List.getElem?_append_left before] at found
      exact listed.handle place other found
    · rw [List.getElem?_append_right (by omega), same, Nat.sub_self] at found
      cases found
      rw [assigned, same]
      exact next
    · rw [List.getElem?_eq_none (by simp; omega)] at found
      cases found
  case named =>
    intro place full found
    rcases Nat.lt_trichotomy place fulls.length with before | same | after
    · rw [List.getElem?_append_left before] at found
      have other : (place : Int) + 1 ≠ registry.nextGlobalHandle := by omega
      simp only [Registry.assignGlobalHandle]
      rw [Function.update_of_ne other]
      exact listed.named place full found
    · rw [List.getElem?_append_right (by omega), same, Nat.sub_self] at found
      cases found
      have last : (place : Int) + 1 = registry.nextGlobalHandle := by omega
      simp only [Registry.assignGlobalHandle]
      rw [last, Function.update_self]
    · rw [List.getElem?_eq_none (by simp; omega)] at found
      cases found

/-- Copying the sensors of one module lists them behind those already there. -/
theorem copySensors_listed {versions : Option Versions} {moduleIndex : Nat} {module : SubModule}
    {rest : List Sensor} {registry final : Registry} {sensors finalSensors : List Sensor}
    {fulls : List FullHandle} (listed : Listed registry sensors fulls)
    (copied : copySensors versions moduleIndex module rest (registry, sensors) =
      some (final, finalSensors)) :
    Listed final finalSensors
      (fulls ++ rest.map fun sensor => ⟨moduleIndex, sensor.handle⟩) := by
  induction rest generalizing registry sensors fulls with
  | nil =>
      cases copied
      rw [List.map_nil, List.append_nil]
      exact listed
  | cons localSensor rest ih =>
      obtain ⟨map, _, rest⟩ := Option.bind_eq_some_iff.mp copied
      obtain ⟨version, _, rest⟩ := Option.bind_eq_some_iff.mp rest
      have one := ih (listed.assign (fixSensorFlags_handle version _)) rest
      rw [List.append_assoc] at one
      exact one

/-- Copying all modules lists their sensors in order. -/
theorem copyModules_listed {versions : Option Versions} {moduleIndex : Nat}
    {modules : List SubModule} {registry final : Registry} {sensors finalSensors : List Sensor}
    {fulls : List FullHandle} (listed : Listed registry sensors fulls)
    (copied : copyModules versions moduleIndex modules (registry, sensors) =
      some (final, finalSensors)) :
    Listed final finalSensors (fulls ++ listingFrom moduleIndex modules) := by
  induction modules generalizing moduleIndex registry sensors fulls with
  | nil =>
      cases copied
      rw [listingFrom, List.append_nil]
      exact listed
  | cons module modules ih =>
      obtain ⟨⟨next, nextSensors⟩, one, rest⟩ := Option.bind_eq_some_iff.mp copied
      have all := ih (copySensors_listed listed one) rest
      rw [List.append_assoc] at all
      exact all

/-! ## Calls of the module -/

/-- The static variables when the libraries have been loaded. -/
def Hal.loaded (modules : List SubModule) : Hal := ⟨modules, none, .empty, none⟩

/-- Calls of `open_sensors` and `get_sensors_list` in any order. -/
inductive Hal.Step : Hal → Hal → Prop where
  | openSensors (hal results) : Step hal (openSensors hal results).2
  | getSensorsList {hal next} : lazyInitSensorsList hal = some next → Step hal next

def sensorsModule (modules : List SubModule) : TransitionSystem Hal where
  Initial hal := hal = .loaded modules
  Step := Hal.Step

/-- The invariant of the static variables. -/
structure Hal.Sound (modules : List SubModule) (hal : Hal) : Prop where
  subHwModules : hal.subHwModules = modules
  unpublished : hal.globalSensorsList = none → hal.registry = .empty
  published : ∀ sensors, hal.globalSensorsList = some sensors →
    Listed hal.registry sensors (listing modules)

/-- The lazy initialisation leaves the registry in step with the published list. -/
theorem lazyInitSensorsList_sound {modules : List SubModule} {hal next : Hal}
    (sound : hal.Sound modules) (ran : lazyInitSensorsList hal = some next) :
    next.Sound modules := by
  unfold lazyInitSensorsList at ran
  split at ran
  · cases ran
    exact sound
  next unpublished =>
    obtain ⟨⟨registry, sensors⟩, copied, ended⟩ := Option.bind_eq_some_iff.mp ran
    cases ended
    rw [sound.unpublished unpublished, sound.subHwModules] at copied
    constructor
    case subHwModules => exact sound.subHwModules
    case unpublished =>
      intro absent
      cases absent
    case published =>
      rintro _ ⟨⟩
      exact copyModules_listed empty_listed copied

/-- In every reachable state the registry is in step with the published list. -/
theorem reachable_sound {modules : List SubModule} {hal : Hal}
    (reachable : (sensorsModule modules).Reachable hal) : hal.Sound modules := by
  apply TransitionSystem.invariant _ _ reachable
  · rintro _ rfl
    refine ⟨rfl, fun _ => rfl, ?_⟩
    rintro _ ⟨⟩
  · intro hal next sound step
    cases step with
    | openSensors => exact ⟨sound.subHwModules, sound.unpublished, sound.published⟩
    | getSensorsList ran => exact lazyInitSensorsList_sound sound ran

/-- A published handle names the sensor that is listed at its place. -/
theorem published_listed {modules : List SubModule} {hal : Hal}
    (reachable : (sensorsModule modules).Reachable hal) {sensors : List Sensor}
    (published : hal.globalSensorsList = some sensors) {place : Nat} {sensor : Sensor}
    (entry : sensors[place]? = some sensor) :
    ∃ full, (listing modules)[place]? = some full ∧
      hal.registry.globalToFull sensor.handle = some full := by
  have listed := (reachable_sound reachable).published sensors published
  obtain ⟨inside, _⟩ := List.getElem?_eq_some_iff.mp entry
  rw [← listed.length] at inside
  refine ⟨_, List.getElem?_eq_getElem inside, ?_⟩
  rw [listed.handle place sensor entry]
  exact listed.named place _ (List.getElem?_eq_getElem inside)

end T00F.Sensors
