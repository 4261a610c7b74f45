import Mathlib

/-!
# Sensor handles and events

The two maps between the handles that `multihal.cpp` publishes and the pairs of a
module index and a local handle, and the rewriting of the handle of an event. A
`Registry` carries what `assign_global_handle` maintains: each entry of
`full_to_global` has its counterpart in `global_to_full`.
-/

namespace T00F.Sensors

/-- `FullHandle` -/
structure FullHandle where
  moduleIndex : Int
  localHandle : Int
deriving DecidableEq, Repr

/-- `global_to_full`, `full_to_global` and `next_global_handle`. -/
structure Registry where
  globalToFull : Int → Option FullHandle
  fullToGlobal : FullHandle → Option Int
  nextGlobalHandle : Int
  positive : 1 ≤ nextGlobalHandle
  /-- Handles that are still to be assigned name nothing. -/
  fresh : ∀ handle, handle < 1 ∨ nextGlobalHandle ≤ handle → globalToFull handle = none
  named : ∀ full handle, fullToGlobal full = some handle → globalToFull handle = some full

namespace Registry

/-- The maps before any sensor is listed. -/
def empty : Registry where
  globalToFull _ := none
  fullToGlobal _ := none
  nextGlobalHandle := 1
  positive := le_refl 1
  fresh _ _ := rfl
  named _ _ absent := by cases absent

/-- `assign_global_handle`: the handle, and the maps with it. -/
def assignGlobalHandle (registry : Registry) (moduleIndex localHandle : Int) : Int × Registry :=
  let globalHandle := registry.nextGlobalHandle
  let fullHandle : FullHandle := ⟨moduleIndex, localHandle⟩
  (globalHandle,
    { globalToFull := Function.update registry.globalToFull globalHandle (some fullHandle)
      fullToGlobal := Function.update registry.fullToGlobal fullHandle (some globalHandle)
      nextGlobalHandle := registry.nextGlobalHandle + 1
      positive := by have := registry.positive; omega
      fresh := by
        intro handle outside
        have positive := registry.positive
        rw [Function.update_of_ne (by omega)]
        exact registry.fresh handle (by omega)
      named := by
        intro full handle assigned
        by_cases same : full = fullHandle
        · rw [same, Function.update_self] at assigned
          cases assigned
          rw [same, Function.update_self]
        · rw [Function.update_of_ne same] at assigned
          have listed := registry.named full handle assigned
          have old : handle ≠ globalHandle := by
            rintro rfl
            rw [registry.fresh _ (Or.inr (le_refl _))] at listed
            cases listed
          rw [Function.update_of_ne old, listed] })

/-- `get_local_handle`; -1 if the handle is unknown. -/
def getLocalHandle (registry : Registry) (globalHandle : Int) : Int :=
  match registry.globalToFull globalHandle with
  | none => -1
  | some full => full.localHandle

/-- `get_module_index`; -1 if the handle is unknown. -/
def getModuleIndex (registry : Registry) (globalHandle : Int) : Int :=
  match registry.globalToFull globalHandle with
  | none => -1
  | some full => full.moduleIndex

/-- `get_global_handle`; -1 if the pair is unknown. -/
def getGlobalHandle (registry : Registry) (fullHandle : FullHandle) : Int :=
  match registry.fullToGlobal fullHandle with
  | none => -1
  | some handle => handle

variable {registry : Registry} {full : FullHandle}

/-- A handle that is found names the pair. -/
theorem globalToFull_getGlobalHandle (known : (registry.fullToGlobal full).isSome) :
    registry.globalToFull (registry.getGlobalHandle full) = some full := by
  obtain ⟨handle, found⟩ := Option.isSome_iff_exists.mp known
  rw [getGlobalHandle, found]
  exact registry.named full handle found

/-- An unregistered sensor has the handle -1. -/
theorem getGlobalHandle_unknown (unknown : registry.fullToGlobal full = none) :
    registry.getGlobalHandle full = -1 := by
  rw [getGlobalHandle, unknown]

/-- -1 names nothing. -/
theorem globalToFull_neg_one (registry : Registry) : registry.globalToFull (-1) = none :=
  registry.fresh (-1) (Or.inl (by omega))

end Registry

/-- `SENSOR_TYPE_META_DATA` -/
def sensorTypeMetaData : Int := 0

/-- `sensors_event_t`. The first two words of its payload are `meta_data.what` and
`meta_data.sensor` when it is read as meta data. -/
structure SensorsEvent where
  version : Int
  sensor : Int
  type : Int
  timestamp : Int
  what : Int
  metaDataSensor : Int
  data : List Int
deriving DecidableEq, Repr

/-- The handle of the sensor that an event is about. Meta data nest it. -/
def SensorsEvent.handle (event : SensorsEvent) : Int :=
  if event.type = sensorTypeMetaData then event.metaDataSensor else event.sensor

/-- `copy_event_remap_handle`: the copy of an event of a queue. -/
def copyEventRemapHandle (registry : Registry) (src : SensorsEvent) (subIndex : Nat) :
    SensorsEvent :=
  if src.type = sensorTypeMetaData then
    { src with
      metaDataSensor := registry.getGlobalHandle ⟨subIndex, src.metaDataSensor⟩ }
  else { src with sensor := registry.getGlobalHandle ⟨subIndex, src.sensor⟩ }

/-- The copy of an event of queue `entry.1` is about a listed sensor: the one that the
event is about by the handles of its module. -/
def Named (registry : Registry) (entry : Nat × SensorsEvent) : Prop :=
  registry.globalToFull (copyEventRemapHandle registry entry.2 entry.1).handle =
    some ⟨entry.1, entry.2.handle⟩

/-- A copied event has the global handle of its own. -/
theorem copyEventRemapHandle_handle (registry : Registry) (src : SensorsEvent) (subIndex : Nat) :
    (copyEventRemapHandle registry src subIndex).handle =
      registry.getGlobalHandle ⟨subIndex, src.handle⟩ := by
  by_cases metaData : src.type = sensorTypeMetaData
  · simp [copyEventRemapHandle, SensorsEvent.handle, metaData]
  · simp [copyEventRemapHandle, SensorsEvent.handle, metaData]

/-- The copy names its sensor exactly if the handle that the sub-HAL wrote is listed. -/
theorem named_iff (registry : Registry) (entry : Nat × SensorsEvent) :
    Named registry entry ↔ (registry.fullToGlobal ⟨entry.1, entry.2.handle⟩).isSome := by
  rw [Named, copyEventRemapHandle_handle]
  constructor
  · intro named
    by_contra unknown
    rw [Registry.getGlobalHandle_unknown (Option.not_isSome_iff_eq_none.mp unknown),
      registry.globalToFull_neg_one] at named
    cases named
  · exact Registry.globalToFull_getGlobalHandle

/-- The top-level sensor of a copy is -1 if the sub-HAL wrote an unlisted handle there,
or -1 over meta data. -/
theorem copyEventRemapHandle_sensor (registry : Registry) (src : SensorsEvent) (subIndex : Nat) :
    (copyEventRemapHandle registry src subIndex).sensor =
      if src.type = sensorTypeMetaData then src.sensor
      else registry.getGlobalHandle ⟨subIndex, src.handle⟩ := by
  by_cases metaData : src.type = sensorTypeMetaData
  · simp [copyEventRemapHandle, metaData]
  · simp [copyEventRemapHandle, SensorsEvent.handle, metaData]

end T00F.Sensors
