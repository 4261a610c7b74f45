import T00F.Sensors.Modules

/-!
# When the list of sensors can be made

`lazy_init_sensors_list` looks up the version of each module that lists a sensor in a
map that only `open_sensors` fills, anew in each call and only for the modules that
open. `callsSucceed_iff` says for which orders of calls it finds what it looks up.
-/

namespace T00F.Sensors

/-- A call of the module. -/
inductive ModuleCall where
  | openSensors (results : Nat → Option Int)
  | getSensorsList

/-- What a call leaves; `none` if it aborts, which it does with `init_sensors_mutex` held. -/
def ModuleCall.run (hal : Hal) : ModuleCall → Option Hal
  | .openSensors results => some (T00F.Sensors.openSensors hal results).2
  | .getSensorsList => lazyInitSensorsList hal

/-- Some calls, one after another. -/
def runCalls : Hal → List ModuleCall → Option Hal
  | hal, [] => some hal
  | hal, call :: rest => (call.run hal).bind fun next => runCalls next rest

/-- No call aborts, and the list is published once it was asked for. -/
def CallsSucceed (hal : Hal) (calls : List ModuleCall) : Prop :=
  ∃ final, runCalls hal calls = some final ∧
    (.getSensorsList ∈ calls → final.globalSensorsList.isSome)

/-- The version of each module that lists a sensor is known: `open` succeeded for the
module, or for another entry of the same library. -/
def VersionsKnown (modules : List SubModule) (results : Option (Nat → Option Int)) : Prop :=
  ∀ module ∈ modules, module.sensors ≠ [] → ∃ opened, results = some opened ∧
    ∃ index other, modules[index]? = some other ∧ other.address = module.address ∧
      (opened index).isSome

/-- The last call of `open_sensors` before the list is made knew all versions. -/
def ListKnown (modules : List SubModule) : Option (Nat → Option Int) → List ModuleCall → Prop
  | _, [] => True
  | _, .openSensors results :: rest => ListKnown modules (some results) rest
  | last, .getSensorsList :: _ => VersionsKnown modules last

/-! ## The lookups of one call -/

/-- The versions are those of the modules whose `open` succeeded. -/
theorem mem_openModules_versions {results : Nat → Option Int} {modules : List SubModule}
    {start address : Nat} :
    (∃ version, (address, version) ∈ (openModules results start modules).2) ↔
      ∃ index other, modules[index]? = some other ∧ other.address = address ∧
        (results (start + index)).isSome := by
  induction modules generalizing start with
  | nil => simp [openModules]
  | cons module rest ih =>
      have later : (∃ index other, (module :: rest)[index]? = some other ∧
            other.address = address ∧ (results (start + index)).isSome) ↔
          (module.address = address ∧ (results start).isSome) ∨
            ∃ index other, rest[index]? = some other ∧ other.address = address ∧
              (results (start + 1 + index)).isSome := by
        constructor
        · rintro ⟨index, other, found, same, opened⟩
          cases index with
          | zero =>
              cases found
              exact Or.inl ⟨same, opened⟩
          | succ index =>
              have shift : start + 1 + index = start + (index + 1) := by omega
              exact Or.inr ⟨index, other, found, same, by rwa [shift]⟩
        · rintro (⟨same, opened⟩ | ⟨index, other, found, same, opened⟩)
          · exact ⟨0, module, rfl, same, opened⟩
          · have shift : start + 1 + index = start + (index + 1) := by omega
            exact ⟨index + 1, other, found, same, by rwa [← shift]⟩
      unfold openModules
      rw [later, ← ih]
      cases result : results start with
      | none => simp
      | some version =>
          constructor
          · rintro ⟨found, member⟩
            rcases List.mem_cons.mp member with first | others
            · cases first
              exact Or.inl ⟨rfl, rfl⟩
            · exact Or.inr ⟨found, others⟩
          · rintro (⟨same, _⟩ | ⟨found, others⟩)
            · exact ⟨version, by rw [same]; exact List.mem_cons_self⟩
            · exact ⟨found, List.mem_cons_of_mem _ others⟩

/-- The inner loop fails only at its lookup, which is the same for all sensors of a
module. -/
theorem copySensors_isSome {versions : Option Versions} {moduleIndex : Nat} {module : SubModule}
    {rest : List Sensor} (listed : Registry × List Sensor) :
    (copySensors versions moduleIndex module rest listed).isSome ↔
      (rest ≠ [] → (versions.bind fun map => map.lookup module.address).isSome) := by
  induction rest generalizing listed with
  | nil => simp [copySensors]
  | cons localSensor rest ih =>
      obtain ⟨registry, sensors⟩ := listed
      cases versions with
      | none => simp [copySensors]
      | some map =>
          cases version : map.lookup module.address with
          | none => simp [copySensors, version]
          | some level => simp [copySensors, version, ih]

/-- Copying succeeds exactly when every module with sensors has a version. -/
theorem copyModules_isSome {versions : Option Versions} {moduleIndex : Nat}
    {modules : List SubModule} (listed : Registry × List Sensor) :
    (copyModules versions moduleIndex modules listed).isSome ↔
      ∀ module ∈ modules, module.sensors ≠ [] →
        (versions.bind fun map => map.lookup module.address).isSome := by
  induction modules generalizing moduleIndex listed with
  | nil => simp [copyModules]
  | cons module rest ih =>
      rw [List.forall_mem_cons, ← @copySensors_isSome _ moduleIndex _ _ listed]
      cases copied : copySensors versions moduleIndex module module.sensors listed with
      | none => simp [copyModules, copied]
      | some next => simp [copyModules, copied, ih]

/-- The first call succeeds exactly when every version it needs is known. -/
theorem lazyInitSensorsList_isSome {modules : List SubModule} {hal : Hal}
    (unpublished : hal.globalSensorsList = none) (same : hal.subHwModules = modules)
    {results : Option (Nat → Option Int)}
    (versions : hal.subHwVersions = results.map fun opened => (openModules opened 0 modules).2) :
    (lazyInitSensorsList hal).isSome ↔ VersionsKnown modules results := by
  have lookups : (copyModules hal.subHwVersions 0 hal.subHwModules (hal.registry, [])).isSome ↔
      VersionsKnown modules results := by
    rw [copyModules_isSome, versions, same]
    apply forall₂_congr
    intro module _
    apply imp_congr_right
    intro _
    cases results with
    | none => simp
    | some opened =>
        have entries := @mem_openModules_versions opened modules 0 module.address
        simp only [Nat.zero_add] at entries
        simp only [Option.map_some, Option.bind_some, List.lookup_isSome_iff, Option.some.injEq,
          exists_eq_left', ← entries, beq_iff_eq, Prod.exists]
        constructor
        · rintro ⟨address, version, member, rfl⟩
          exact ⟨version, member⟩
        · rintro ⟨version, member⟩
          exact ⟨_, version, member, rfl⟩
  rw [← lookups, lazyInitSensorsList, unpublished]
  cases copyModules hal.subHwVersions 0 hal.subHwModules (hal.registry, []) with
  | none => rfl
  | some listed => rfl

/-- A call that does not abort publishes the list. -/
theorem lazyInitSensorsList_published {hal next : Hal}
    (ran : lazyInitSensorsList hal = some next) : next.globalSensorsList.isSome := by
  unfold lazyInitSensorsList at ran
  split at ran
  next published =>
    cases ran
    rw [published]
    rfl
  next =>
    obtain ⟨listed, _, ended⟩ := Option.bind_eq_some_iff.mp ran
    cases ended
    rfl

/-! ## All calls -/

/-- Once the list is published every call succeeds. -/
theorem callsSucceed_published {hal : Hal} {sensors : List Sensor}
    (published : hal.globalSensorsList = some sensors) (calls : List ModuleCall) :
    ∃ final, runCalls hal calls = some final ∧ final.globalSensorsList = some sensors := by
  induction calls generalizing hal with
  | nil => exact ⟨hal, rfl, published⟩
  | cons call rest ih =>
      cases call with
      | openSensors results => exact @ih (openSensors hal results).2 published
      | getSensorsList =>
          have kept : lazyInitSensorsList hal = some hal := by
            rw [lazyInitSensorsList, published]
          obtain ⟨final, ran, list⟩ := ih published
          exact ⟨final, by rw [runCalls, ModuleCall.run, kept]; exact ran, list⟩

/-- All calls succeed exactly when the list they need can be made. -/
theorem callsSucceed_unpublished {modules : List SubModule} {hal : Hal}
    (unpublished : hal.globalSensorsList = none) (same : hal.subHwModules = modules)
    {results : Option (Nat → Option Int)}
    (versions : hal.subHwVersions = results.map fun opened => (openModules opened 0 modules).2)
    (calls : List ModuleCall) :
    CallsSucceed hal calls ↔ ListKnown modules results calls := by
  induction calls generalizing hal results with
  | nil => simp [CallsSucceed, ListKnown, runCalls]
  | cons call rest ih =>
      cases call with
      | openSensors opened =>
          have next := @ih (openSensors hal opened).2 unpublished same (some opened)
            (by rw [← same]; rfl)
          rw [ListKnown, ← next]
          simp [CallsSucceed, runCalls, ModuleCall.run]
      | getSensorsList =>
          rw [ListKnown, ← lazyInitSensorsList_isSome unpublished same versions]
          constructor
          · rintro ⟨final, ran, _⟩
            obtain ⟨next, listed, _⟩ := Option.bind_eq_some_iff.mp ran
            exact Option.isSome_iff_exists.mpr ⟨next, listed⟩
          · intro listed
            obtain ⟨next, listed⟩ := Option.isSome_iff_exists.mp listed
            obtain ⟨sensors, published⟩ :=
              Option.isSome_iff_exists.mp (lazyInitSensorsList_published listed)
            obtain ⟨final, ran, list⟩ := callsSucceed_published published rest
            refine ⟨final, ?_, fun _ => by rw [list]; rfl⟩
            rw [runCalls, ModuleCall.run, listed]
            exact ran

/-- For every order of calls, none aborts and the list is published once it was asked for,
exactly if the last call of `open_sensors` before the first call of `get_sensors_list`
found the version of every module that lists a sensor. -/
theorem callsSucceed_iff (modules : List SubModule) (calls : List ModuleCall) :
    CallsSucceed (.loaded modules) calls ↔ ListKnown modules none calls :=
  callsSucceed_unpublished rfl rfl rfl calls

/-- The list is asked for before any module was opened. -/
theorem getSensorsList_aborts :
    ¬ CallsSucceed (.loaded [⟨0, [⟨5, 8, 0, 200000, 0⟩]⟩]) [.getSensorsList] := by
  rintro ⟨final, ran, _⟩
  cases ran

end T00F.Sensors
