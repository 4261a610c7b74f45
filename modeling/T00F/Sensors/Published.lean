import T00F.Sensors.Listing

/-!
# The published list and the two maps

What `lazy_init_sensors_list` leaves behind when it finds all versions: the sensors of
all modules in order, and maps between their handles and places in the modules that are
inverse to each other. `Copied` is the invariant of its loops, `lazyInit_published` its
law for any calls that follow.
-/

namespace T00F.Sensors

open Systems

/-- What the modules list, each sensor with its module. -/
def moduleSensors (modules : List SubModule) : List (SubModule × Sensor) :=
  modules.flatMap fun module => module.sensors.map fun localSensor => (module, localSensor)

/-- The entry of the list for a sensor at a place. -/
def publishedSensor (version : Int) (place : Nat) (localSensor : Sensor) : Sensor :=
  { localSensor with
    handle := place + 1
    flags := (fixSensorFlags version localSensor).flags }

/-- The loops have copied these entries, which have these places in the modules. -/
structure Copied (versions : Versions) (registry : Registry) (sensors : List Sensor)
    (entries : List (SubModule × Sensor)) (fulls : List FullHandle) : Prop where
  nextGlobalHandle : registry.nextGlobalHandle = fulls.length + 1
  sensors_length : sensors.length = fulls.length
  entries_length : entries.length = fulls.length
  sensor : ∀ place module localSensor, entries[place]? = some (module, localSensor) →
    ∃ version, versions.lookup module.address = some version ∧
      sensors[place]? = some (publishedSensor version place localSensor)
  globalToFull : ∀ handle full, registry.globalToFull handle = some full ↔
    ∃ place : Nat, handle = place + 1 ∧ fulls[place]? = some full
  fullToGlobal : ∀ full handle, registry.fullToGlobal full = some handle ↔
    ∃ place : Nat, handle = place + 1 ∧ fulls[place]? = some full

/-- An entry of a list with one more item is an old entry or the item. -/
theorem getElem?_concat_eq_some {α : Type} {list : List α} {last found : α} {place : Nat} :
    (list ++ [last])[place]? = some found ↔
      list[place]? = some found ∨ place = list.length ∧ last = found := by
  rcases Nat.lt_trichotomy place list.length with before | same | after
  · rw [List.getElem?_append_left before]
    exact ⟨Or.inl, fun either => either.resolve_right fun atEnd => by omega⟩
  · subst same
    simp
  · rw [List.getElem?_eq_none (by simp; omega), List.getElem?_eq_none (by omega)]
    simp
    omega

/-- Before anything is copied nothing is published. -/
theorem copied_nil (versions : Versions) : Copied versions .empty [] [] [] where
  nextGlobalHandle := rfl
  sensors_length := rfl
  entries_length := rfl
  sensor _ _ _ absent := by cases absent
  globalToFull _ _ := by simp [Registry.empty]
  fullToGlobal _ _ := by simp [Registry.empty]

/-- The fixed flags do not depend on the handle, and no other field changes. -/
theorem fixSensorFlags_eq (version handle : Int) (localSensor : Sensor) :
    fixSensorFlags version { localSensor with handle := handle } =
      { localSensor with
        handle := handle
        flags := (fixSensorFlags version localSensor).flags } := by
  unfold fixSensorFlags
  split_ifs
  · rfl
  · rfl
  · rfl

variable {versions : Versions} {registry : Registry} {sensors : List Sensor}
  {entries : List (SubModule × Sensor)} {fulls : List FullHandle}

/-- One iteration of the inner loop. -/
theorem Copied.assign (copied : Copied versions registry sensors entries fulls)
    {module : SubModule} {version : Int}
    (known : versions.lookup module.address = some version) {moduleIndex : Nat}
    {localSensor : Sensor} (unlisted : (⟨moduleIndex, localSensor.handle⟩ : FullHandle) ∉ fulls) :
    Copied versions (registry.assignGlobalHandle moduleIndex localSensor.handle).2
      (sensors ++ [fixSensorFlags version { localSensor with
        handle := (registry.assignGlobalHandle moduleIndex localSensor.handle).1 }])
      (entries ++ [(module, localSensor)]) (fulls ++ [⟨moduleIndex, localSensor.handle⟩]) := by
  obtain ⟨next, sensors_length, entries_length, sensor, globalToFull, fullToGlobal⟩ := copied
  -- The places of the extended list are the old ones and the new handle.
  have places : ∀ (handle : Int) full,
      (∃ place : Nat, handle = place + 1 ∧
        (fulls ++ [⟨moduleIndex, localSensor.handle⟩])[place]? = some full) ↔
      (∃ place : Nat, handle = place + 1 ∧ fulls[place]? = some full) ∨
        handle = registry.nextGlobalHandle ∧ ⟨moduleIndex, localSensor.handle⟩ = full := by
    intro handle full
    simp only [getElem?_concat_eq_some, and_or_left, exists_or, next]
    apply or_congr_right
    constructor
    · rintro ⟨place, rfl, rfl, same⟩
      exact ⟨rfl, same⟩
    · rintro ⟨rfl, same⟩
      exact ⟨_, rfl, rfl, same⟩
  constructor
  case nextGlobalHandle =>
    rw [List.length_append]
    simp only [Registry.assignGlobalHandle, next, List.length_singleton]
    omega
  case sensors_length => simp [sensors_length]
  case entries_length => simp [entries_length]
  case sensor =>
    intro place other otherSensor found
    simp only [getElem?_concat_eq_some] at found ⊢
    rcases found with old | ⟨same, new⟩
    · obtain ⟨level, lookup, entry⟩ := sensor place other otherSensor old
      exact ⟨level, lookup, Or.inl entry⟩
    · cases new
      refine ⟨version, known, Or.inr ⟨by omega, ?_⟩⟩
      rw [fixSensorFlags_eq, publishedSensor, same, entries_length]
      simp only [Registry.assignGlobalHandle, next]
  case globalToFull =>
    intro handle full
    rw [places]
    simp only [Registry.assignGlobalHandle]
    by_cases new : handle = registry.nextGlobalHandle
    · rw [new, Function.update_self, Option.some.injEq]
      refine ⟨fun same => Or.inr ⟨rfl, same⟩, fun either => ?_⟩
      rcases either with ⟨place, same, old⟩ | ⟨_, same⟩
      · obtain ⟨inside, _⟩ := List.getElem?_eq_some_iff.mp old
        omega
      · exact same
    · rw [Function.update_of_ne new, globalToFull]
      exact ⟨Or.inl, fun either => either.resolve_right fun last => new last.1⟩
  case fullToGlobal =>
    intro full handle
    rw [places]
    simp only [Registry.assignGlobalHandle]
    by_cases new : full = ⟨moduleIndex, localSensor.handle⟩
    · rw [new, Function.update_self, Option.some.injEq]
      refine ⟨fun same => Or.inr ⟨same.symm, rfl⟩, fun either => ?_⟩
      rcases either with ⟨_, _, old⟩ | ⟨same, _⟩
      · exact absurd (List.mem_of_getElem? old) unlisted
      · exact same.symm
    · rw [Function.update_of_ne new, fullToGlobal]
      exact ⟨Or.inl, fun either => either.resolve_right fun last => new last.2.symm⟩

/-- Copying the sensors of one module publishes them with their versions' flags. -/
theorem copySensors_copied {moduleIndex : Nat} {module : SubModule} {rest : List Sensor}
    {final : Registry} {finalSensors : List Sensor}
    (copied : Copied versions registry sensors entries fulls)
    (distinct :
      (fulls ++ rest.map fun sensor => (⟨moduleIndex, sensor.handle⟩ : FullHandle)).Nodup)
    (ran : copySensors (some versions) moduleIndex module rest (registry, sensors) =
      some (final, finalSensors)) :
    Copied versions final finalSensors (entries ++ rest.map fun sensor => (module, sensor))
      (fulls ++ rest.map fun sensor => (⟨moduleIndex, sensor.handle⟩ : FullHandle)) := by
  induction rest generalizing registry sensors entries fulls with
  | nil =>
      cases ran
      simpa using copied
  | cons localSensor rest ih =>
      obtain ⟨version, known, ran⟩ := Option.bind_eq_some_iff.mp ran
      rw [List.map_cons] at distinct
      have unlisted : (⟨moduleIndex, localSensor.handle⟩ : FullHandle) ∉ fulls := fun member =>
        List.disjoint_of_nodup_append distinct member List.mem_cons_self
      rw [List.append_cons] at distinct
      have next := ih (copied.assign known unlisted) distinct ran
      simpa only [List.map_cons, List.append_assoc, List.singleton_append] using next

/-- Copying all modules publishes every sensor of every module. -/
theorem copyModules_copied {moduleIndex : Nat} {modules : List SubModule} {final : Registry}
    {finalSensors : List Sensor} (copied : Copied versions registry sensors entries fulls)
    (distinct : (fulls ++ listingFrom moduleIndex modules).Nodup)
    (ran : copyModules (some versions) moduleIndex modules (registry, sensors) =
      some (final, finalSensors)) :
    Copied versions final finalSensors (entries ++ moduleSensors modules)
      (fulls ++ listingFrom moduleIndex modules) := by
  induction modules generalizing moduleIndex registry sensors entries fulls with
  | nil =>
      cases ran
      simpa [moduleSensors, listingFrom] using copied
  | cons module rest ih =>
      obtain ⟨⟨next, nextSensors⟩, one, ran⟩ := Option.bind_eq_some_iff.mp ran
      rw [listingFrom, ← List.append_assoc] at distinct ⊢
      have all := ih (copySensors_copied copied distinct.of_append_left one) distinct ran
      rwa [List.append_assoc] at all

/-- The pairs of a module index and a local handle are distinct if the handles of each
module are. -/
theorem nodup_listingFrom {modules : List SubModule} (start : Nat)
    (distinct : ∀ module ∈ modules, (module.sensors.map (·.handle)).Nodup) :
    (listingFrom start modules).Nodup := by
  induction modules generalizing start with
  | nil => exact List.nodup_nil
  | cons module rest ih =>
      obtain ⟨own, others⟩ := List.forall_mem_cons.mp distinct
      have pairs : (module.sensors.map fun sensor =>
          (⟨start, sensor.handle⟩ : FullHandle)).Nodup := by
        have injective : Function.Injective fun handle => (⟨start, handle⟩ : FullHandle) := by
          rintro first second ⟨⟩
          rfl
        have mapped := own.map injective
        rwa [List.map_map] at mapped
      apply List.Nodup.append pairs (ih (start + 1) others)
      intro full early late
      obtain ⟨sensor, _, rfl⟩ := List.mem_map.mp early
      obtain ⟨offset, _, index⟩ := mem_listingFrom late
      simp only [Nat.cast_inj] at index
      omega

/-- There are as many listed handles as sensors in the modules. -/
theorem length_listingFrom (start : Nat) (modules : List SubModule) :
    (listingFrom start modules).length =
      (modules.map fun module => module.sensors.length).sum := by
  induction modules generalizing start with
  | nil => rfl
  | cons module rest ih => simp [listingFrom, ih]

/-! ## The published list -/

/-- The list is published: its length is what was counted before it was allocated, its
entries are the sensors of the modules in order, and the maps between handles and places
in the modules are inverse to each other. -/
structure Published (modules : List SubModule) (versions : Versions) (hal : Hal)
    (sensors : List Sensor) : Prop where
  globalSensorsList : hal.globalSensorsList = some sensors
  length : sensors.length = (modules.map fun module => module.sensors.length).sum
  length_entries : sensors.length = (moduleSensors modules).length
  sensor : ∀ place module localSensor,
    (moduleSensors modules)[place]? = some (module, localSensor) →
    ∃ version, versions.lookup module.address = some version ∧
      sensors[place]? = some (publishedSensor version place localSensor)
  place : ∀ handle full, hal.registry.globalToFull handle = some full ↔
    ∃ place : Nat, handle = place + 1 ∧ (listing modules)[place]? = some full
  inverse : ∀ handle full, hal.registry.globalToFull handle = some full ↔
    hal.registry.fullToGlobal full = some handle
  globalToFull : ∀ handle, (hal.registry.globalToFull handle).isSome ↔
    1 ≤ handle ∧ handle ≤ sensors.length
  fullToGlobal : ∀ full, (hal.registry.fullToGlobal full).isSome ↔ full ∈ listing modules
  getModuleIndex : ∀ handle, hal.registry.getModuleIndex handle = -1 ↔
    ¬ (1 ≤ handle ∧ handle ≤ sensors.length)
  getLocalHandle : ∀ handle, hal.registry.getLocalHandle handle = -1 ↔
    ¬ (1 ≤ handle ∧ handle ≤ sensors.length) ∨
      ∃ full, hal.registry.globalToFull handle = some full ∧ full.localHandle = -1
  getGlobalHandle : ∀ full, hal.registry.getGlobalHandle full = -1 ↔ full ∉ listing modules

/-- What was copied is what the list publishes. -/
theorem Copied.published {modules : List SubModule} {hal : Hal}
    (copied : Copied versions hal.registry sensors (moduleSensors modules) (listing modules))
    (list : hal.globalSensorsList = some sensors) : Published modules versions hal sensors := by
  have outside : ∀ handle, (hal.registry.globalToFull handle).isSome ↔
      1 ≤ handle ∧ handle ≤ sensors.length := by
    intro handle
    simp only [Option.isSome_iff_exists, copied.globalToFull, copied.sensors_length]
    constructor
    · rintro ⟨full, place, rfl, found⟩
      obtain ⟨inside, _⟩ := List.getElem?_eq_some_iff.mp found
      omega
    · rintro ⟨low, high⟩
      have inside : (handle - 1).toNat < (listing modules).length := by omega
      exact ⟨_, (handle - 1).toNat, by omega, List.getElem?_eq_getElem inside⟩
  have unlisted : ∀ full, (hal.registry.fullToGlobal full).isSome ↔ full ∈ listing modules := by
    intro full
    simp only [Option.isSome_iff_exists, copied.fullToGlobal, List.mem_iff_getElem?]
    constructor
    · rintro ⟨_, place, _, found⟩
      exact ⟨place, found⟩
    · rintro ⟨place, found⟩
      exact ⟨_, place, rfl, found⟩
  constructor
  case globalSensorsList => exact list
  case length => rw [copied.sensors_length, listing, length_listingFrom]
  case length_entries => rw [copied.sensors_length, copied.entries_length]
  case sensor => exact copied.sensor
  case place => exact copied.globalToFull
  case inverse =>
    intro handle full
    rw [copied.globalToFull, copied.fullToGlobal]
  case globalToFull => exact outside
  case fullToGlobal => exact unlisted
  case getModuleIndex =>
    intro handle
    rw [← outside, Registry.getModuleIndex]
    cases found : hal.registry.globalToFull handle with
    | none => simp
    | some full =>
        obtain ⟨place, _, listed⟩ := (copied.globalToFull handle full).mp found
        obtain ⟨offset, _, index⟩ := mem_listingFrom (List.mem_of_getElem? listed)
        simp only [Option.isSome_some, not_true_eq_false, iff_false]
        omega
  case getLocalHandle =>
    intro handle
    rw [← outside, Registry.getLocalHandle]
    cases hal.registry.globalToFull handle with
    | none => simp
    | some full => simp
  case getGlobalHandle =>
    intro full
    rw [← unlisted, Registry.getGlobalHandle]
    cases found : hal.registry.fullToGlobal full with
    | none => simp
    | some handle =>
        obtain ⟨place, same, _⟩ := (copied.fullToGlobal full handle).mp found
        simp only [Option.isSome_some, not_true_eq_false, iff_false]
        omega

/-- Calls after the first keep the list and the maps. -/
theorem Published.runCalls {modules : List SubModule} {hal : Hal}
    (published : Published modules versions hal sensors) (calls : List ModuleCall) :
    ∃ final, runCalls hal calls = some final ∧ Published modules versions final sensors := by
  induction calls generalizing hal with
  | nil => exact ⟨hal, rfl, published⟩
  | cons call rest ih =>
      cases call with
      | openSensors results =>
          -- Opening changes neither the list nor the maps.
          have next : Published modules versions (openSensors hal results).2 sensors :=
            { published with }
          exact ih next
      | getSensorsList =>
          have kept : lazyInitSensorsList hal = some hal := by
            rw [lazyInitSensorsList, published.globalSensorsList]
          obtain ⟨final, ran, next⟩ := ih published
          exact ⟨final, by rw [T00F.Sensors.runCalls, ModuleCall.run, kept]; exact ran, next⟩

/-- If the handles of each module are distinct and all versions are known, the first call
publishes the list and the maps as they should be, and later calls keep them. -/
theorem lazyInit_published {modules : List SubModule}
    (distinct : ∀ module ∈ modules, (module.sensors.map (·.handle)).Nodup) {hal : Hal}
    (reachable : (sensorsModule modules).Reachable hal)
    (unpublished : hal.globalSensorsList = none) {versions : Versions}
    (opened : hal.subHwVersions = some versions)
    (known : ∀ module ∈ modules, module.sensors ≠ [] →
      (versions.lookup module.address).isSome)
    (calls : List ModuleCall) :
    ∃ final sensors, runCalls hal (.getSensorsList :: calls) = some final ∧
      Published modules versions final sensors := by
  have sound := reachable_sound reachable
  have copies : (copyModules (some versions) 0 modules (.empty, [])).isSome := by
    rw [copyModules_isSome]
    exact known
  obtain ⟨⟨registry, sensors⟩, copied⟩ := Option.isSome_iff_exists.mp copies
  let listed : Hal :=
    { hal with
      registry := registry
      globalSensorsList := some sensors
      subHwVersions := none }
  have ran : lazyInitSensorsList hal = some listed := by
    rw [lazyInitSensorsList, unpublished, opened, sound.subHwModules,
      sound.unpublished unpublished]
    simp only [copied, Option.bind_eq_bind, Option.bind_some, listed, sound.subHwModules]
  have all := copyModules_copied (copied_nil versions) (nodup_listingFrom 0 distinct) copied
  have first : Published modules versions listed sensors := Copied.published all rfl
  obtain ⟨final, rest, published⟩ := first.runCalls calls
  refine ⟨final, sensors, ?_, published⟩
  rw [runCalls, ModuleCall.run, ran]
  exact rest

/-- Two modules whose sensors have the same handles; only the first is below version 1.3. -/
theorem lazyInit_published_modules : ∃ final sensors,
    runCalls (openSensors (.loaded [⟨0, [⟨5, 8, 0, 200000, 0⟩, ⟨6, 1, 0, 0, 0⟩]⟩,
        ⟨1, [⟨5, 8, 0, 200000, 0⟩]⟩])
      fun index => some (sensorsDeviceApiVersion11 + 0x20000 * index)).2
        [.getSensorsList, .getSensorsList] = some final ∧
      Published [⟨0, [⟨5, 8, 0, 200000, 0⟩, ⟨6, 1, 0, 0, 0⟩]⟩, ⟨1, [⟨5, 8, 0, 200000, 0⟩]⟩]
        [(0, 0x01010001), (1, 0x01030001)] final sensors :=
  lazyInit_published (by decide)
    (.step (.initial rfl) (.openSensors _ _)) rfl rfl (by decide) [.getSensorsList]

end T00F.Sensors
