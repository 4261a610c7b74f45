import T00F.Sensors.Published
import T00F.Systems.LockDiscipline

/-!
# Threads that initialise the module

`open_sensors` and `get_sensors_list`, called by any number of threads at once: both load the
libraries if nobody has, under `init_modules_mutex`, and the second fills the list of sensors if
nobody has, under `init_sensors_mutex`. Nothing guards `sub_hw_versions`. `init_shared` says
that all threads get one complete list of all that was loaded, `init_progress` that they never
wait for each other in a circle, and `lazyInitSensorsList_alone` that a thread which nobody
disturbs does what the calls in `Modules` do. Every access takes effect at once.
-/

namespace T00F.Sensors

open Systems

universe u

/-- Who calls `lazy_init_modules`. -/
inductive Caller where
  | openSensors
  | sensorsList
deriving DecidableEq, Repr

/-- Where a thread is, with what its local variables hold. -/
inductive Stage where
  /-- The last `get_sensors_list` has returned this. -/
  | outside (last : Option (Int × Option (List Sensor)))
  /-- `lazy_init_modules` -/
  | awaitingModules (caller : Caller)
  | checkingModules (caller : Caller)
  | loading (caller : Caller) (soPaths : List (Option SubModule))
  | leavingModules (caller : Caller)
  /-- `open_sensors` -/
  | newVersions
  | opening (index : Nat)
  /-- `lazy_init_sensors_list` -/
  | awaitingSensors
  | checkingSensors
  | resetting
  | counting (index : Nat)
  | examining (moduleIndex : Nat) (mutableSensorList : List Sensor)
  | copying (moduleIndex : Nat) (subhalSensorsList mutableSensorList : List Sensor)
  | deleting
  | leavingSensors
  /-- `module__get_sensors_list` -/
  | reading
  | returning (list : Option (List Sensor))

namespace Stage

/-- Where `lazy_init_modules` returns to. -/
def afterModules : Caller → Stage
  | .openSensors => newVersions
  | .sensorsList => resetting

/-- Between `pthread_mutex_lock` and `pthread_mutex_unlock` of `init_modules_mutex`. -/
def HoldsModules : Stage → Prop
  | checkingModules _ | loading _ _ | leavingModules _ => True
  | _ => False

/-- The same for `init_sensors_mutex`, which `lazy_init_sensors_list` holds while it loads the
libraries. -/
def HoldsSensors : Stage → Prop
  | checkingSensors | resetting | counting _ | examining _ _ | copying _ _ _ | deleting
  | leavingSensors => True
  | awaitingModules caller | checkingModules caller | loading caller _ | leavingModules caller =>
      caller = .sensorsList
  | _ => False

/-- The thread iterates over `sub_hw_modules`, or is about to. -/
def UsesModules : Stage → Prop
  | newVersions | opening _ | resetting | counting _ | examining _ _ | copying _ _ _ => True
  | _ => False

/-- The thread is in one of the two calls. -/
def Busy : Stage → Prop
  | outside _ => False
  | _ => True

/-- Who holds the inner lock is in one of the two calls. -/
theorem HoldsModules.busy {stage : Stage} (holds : stage.HoldsModules) : stage.Busy := by
  cases stage with
  | outside => exact holds.elim
  | _ => trivial

/-- So is who holds the outer one. -/
theorem HoldsSensors.busy {stage : Stage} (holds : stage.HoldsSensors) : stage.Busy := by
  cases stage with
  | outside => exact holds.elim
  | _ => trivial

end Stage

/-- The static variables, with the libraries that `dlopen` was tried on, and the threads. A library
is what its symbol refers to, if it can be loaded. -/
structure Loader (Thread : Type u) where
  initModulesMutex : Option Thread
  initSensorsMutex : Option Thread
  subHwModules : Option (List SubModule)
  tried : List (Option SubModule)
  subHwVersions : Option Versions
  registry : Registry
  globalSensorsCount : Int
  globalSensorsList : Option (List Sensor)
  stage : Thread → Stage

namespace Loader

variable {Thread : Type u}

/-- The variables before any call. -/
def initial : Loader Thread where
  initModulesMutex := none
  initSensorsMutex := none
  subHwModules := none
  tried := []
  subHwVersions := none
  registry := .empty
  globalSensorsCount := -1
  globalSensorsList := none
  stage := fun _ => .outside none

variable [DecidableEq Thread]

/-- The thread goes to another place. -/
def moved (loader : Loader Thread) (thread : Thread) (stage : Stage) : Loader Thread :=
  { loader with stage := Function.update loader.stage thread stage }

@[simp] theorem moved_stage (loader : Loader Thread) (thread : Thread) (stage : Stage) :
    (loader.moved thread stage).stage thread = stage := Function.update_self ..

/-- A thread goes on. Where the map of versions is missing there is no step. -/
inductive Step (soPaths : List (Option SubModule)) (loader : Loader Thread) (thread : Thread) :
    Loader Thread → Prop where
  | callOpen {last} : loader.stage thread = .outside last →
      Step soPaths loader thread (loader.moved thread (.awaitingModules .openSensors))
  | callList {last} : loader.stage thread = .outside last →
      Step soPaths loader thread (loader.moved thread .awaitingSensors)
  | lockModules {caller} : loader.stage thread = .awaitingModules caller →
      loader.initModulesMutex = none →
      Step soPaths loader thread
        { loader.moved thread (.checkingModules caller) with initModulesMutex := some thread }
  | present {caller modules} : loader.stage thread = .checkingModules caller →
      loader.subHwModules = some modules →
      Step soPaths loader thread (loader.moved thread (.leavingModules caller))
  | create {caller} : loader.stage thread = .checkingModules caller →
      loader.subHwModules = none →
      Step soPaths loader thread
        { loader.moved thread (.loading caller soPaths) with subHwModules := some [] }
  | dlopen {caller library rest modules} :
      loader.stage thread = .loading caller (library :: rest) →
      loader.subHwModules = some modules →
      Step soPaths loader thread
        { loader.moved thread (.loading caller rest) with
          subHwModules := some (modules ++ library.toList)
          tried := loader.tried ++ [library] }
  | loaded {caller} : loader.stage thread = .loading caller [] →
      Step soPaths loader thread (loader.moved thread (.leavingModules caller))
  | unlockModules {caller} : loader.stage thread = .leavingModules caller →
      Step soPaths loader thread
        { loader.moved thread (Stage.afterModules caller) with initModulesMutex := none }
  | newVersions : loader.stage thread = .newVersions →
      Step soPaths loader thread
        { loader.moved thread (.opening 0) with subHwVersions := some [] }
  | opened {index modules module versions} (version : Int) :
      loader.stage thread = .opening index → loader.subHwModules = some modules →
      modules[index]? = some module → loader.subHwVersions = some versions →
      Step soPaths loader thread
        { loader.moved thread (.opening (index + 1)) with
          subHwVersions := some (versions ++ [(module.address, version)]) }
  | openFailed {index modules module} : loader.stage thread = .opening index →
      loader.subHwModules = some modules → modules[index]? = some module →
      Step soPaths loader thread (loader.moved thread (.opening (index + 1)))
  | openedAll {index modules} : loader.stage thread = .opening index →
      loader.subHwModules = some modules → modules[index]? = none →
      Step soPaths loader thread (loader.moved thread (.outside none))
  | lockSensors : loader.stage thread = .awaitingSensors → loader.initSensorsMutex = none →
      Step soPaths loader thread
        { loader.moved thread .checkingSensors with initSensorsMutex := some thread }
  | listed {sensors} : loader.stage thread = .checkingSensors →
      loader.globalSensorsList = some sensors →
      Step soPaths loader thread (loader.moved thread .leavingSensors)
  | unlisted : loader.stage thread = .checkingSensors → loader.globalSensorsList = none →
      Step soPaths loader thread (loader.moved thread (.awaitingModules .sensorsList))
  | reset : loader.stage thread = .resetting →
      Step soPaths loader thread
        { loader.moved thread (.counting 0) with globalSensorsCount := 0 }
  | count {index modules module} : loader.stage thread = .counting index →
      loader.subHwModules = some modules → modules[index]? = some module →
      Step soPaths loader thread
        { loader.moved thread (.counting (index + 1)) with
          globalSensorsCount := loader.globalSensorsCount + module.sensors.length }
  | counted {index modules} : loader.stage thread = .counting index →
      loader.subHwModules = some modules → modules[index]? = none →
      Step soPaths loader thread (loader.moved thread (.examining 0 []))
  | examine {moduleIndex list modules module} :
      loader.stage thread = .examining moduleIndex list →
      loader.subHwModules = some modules → modules[moduleIndex]? = some module →
      Step soPaths loader thread (loader.moved thread (.copying moduleIndex module.sensors list))
  | copy {moduleIndex localSensor rest list modules module versions version} :
      loader.stage thread = .copying moduleIndex (localSensor :: rest) list →
      loader.subHwModules = some modules → modules[moduleIndex]? = some module →
      loader.subHwVersions = some versions → versions.lookup module.address = some version →
      Step soPaths loader thread
        { loader.moved thread (.copying moduleIndex rest
            (list ++ [fixSensorFlags version { localSensor with
              handle := (loader.registry.assignGlobalHandle moduleIndex localSensor.handle).1 }]))
          with
          registry := (loader.registry.assignGlobalHandle moduleIndex localSensor.handle).2 }
  | copied {moduleIndex list} : loader.stage thread = .copying moduleIndex [] list →
      Step soPaths loader thread (loader.moved thread (.examining (moduleIndex + 1) list))
  | publish {moduleIndex list modules} : loader.stage thread = .examining moduleIndex list →
      loader.subHwModules = some modules → modules[moduleIndex]? = none →
      Step soPaths loader thread
        { loader.moved thread .deleting with globalSensorsList := some list }
  | delete : loader.stage thread = .deleting →
      Step soPaths loader thread
        { loader.moved thread .leavingSensors with subHwVersions := none }
  | unlockSensors : loader.stage thread = .leavingSensors →
      Step soPaths loader thread
        { loader.moved thread .reading with initSensorsMutex := none }
  | read : loader.stage thread = .reading →
      Step soPaths loader thread (loader.moved thread (.returning loader.globalSensorsList))
  | returned {list} : loader.stage thread = .returning list →
      Step soPaths loader thread
        (loader.moved thread (.outside (some (loader.globalSensorsCount, list))))

/-- All threads together. -/
def system (soPaths : List (Option SubModule)) : TransitionSystem (Loader Thread) where
  Initial loader := loader = initial
  Step loader next := ∃ thread, Step soPaths loader thread next

/-! ## What the locks guard -/

/-- What `init_modules_mutex` guards. -/
abbrev ModulesData := Option (List SubModule) × List (Option SubModule)

def modulesData (loader : Loader Thread) : ModulesData := (loader.subHwModules, loader.tried)

/-- What `init_sensors_mutex` guards. -/
abbrev SensorsData := Registry × Int × Option (List Sensor)

def sensorsData (loader : Loader Thread) : SensorsData :=
  (loader.registry, loader.globalSensorsCount, loader.globalSensorsList)

/-- Every library has been tried once, in order. -/
def AllTried (soPaths : List (Option SubModule)) (data : ModulesData) : Prop :=
  data = (some soPaths.reduceOption, soPaths)

/-- What a thread knows of the modules. -/
def ModulesKnown (soPaths : List (Option SubModule)) : Stage → ModulesData → Prop
  | .checkingModules _, data => data = (none, []) ∨ AllTried soPaths data
  | .loading _ rest, data =>
      ∃ tried, tried ++ rest = soPaths ∧ data = (some tried.reduceOption, tried)
  | .leavingModules _, data | .newVersions, data | .opening _, data | .resetting, data
  | .counting _, data | .examining _ _, data | .copying _ _ _, data => AllTried soPaths data
  | _, _ => True

/-- `init_modules_mutex` -/
def modulesLock (soPaths : List (Option SubModule)) : Discipline Stage ModulesData where
  Inside := Stage.HoldsModules
  Free data := data = (none, []) ∨ AllTried soPaths data
  Knows := ModulesKnown soPaths
  Grows data later := AllTried soPaths data → later = data
  lasts := by
    intro stage data later apart known grows
    cases stage with
    | checkingModules | loading | leavingModules => exact absurd trivial apart
    | newVersions | opening | resetting | counting | examining | copying =>
        rwa [grows known]
    | outside | awaitingModules | awaitingSensors | checkingSensors | deleting | leavingSensors
    | reading | returning => trivial

/-- No sensor has a handle. -/
def Unlisted (data : SensorsData) : Prop := data.1 = .empty ∧ data.2.2 = none

/-- The list is complete. -/
def Shared (modules : List SubModule) (data : SensorsData) : Prop :=
  ∃ sensors, data.2.2 = some sensors ∧ data.2.1 = sensors.length ∧
    Listed data.1 sensors (listing modules)

/-- How many sensors the modules list. -/
def sensorCount (modules : List SubModule) : Nat :=
  (modules.map fun module => module.sensors.length).sum

/-- What a thread knows of the list. -/
def SensorsKnown (modules : List SubModule) : Stage → SensorsData → Prop
  | .outside (some (count, list)), data =>
      Shared modules data ∧ data.2.1 = count ∧ data.2.2 = list
  | .awaitingModules caller, data | .checkingModules caller, data | .loading caller _, data
  | .leavingModules caller, data => caller = .sensorsList → Unlisted data
  | .checkingSensors, data => Unlisted data ∨ Shared modules data
  | .resetting, data => Unlisted data
  | .counting index, data => Unlisted data ∧ data.2.1 = sensorCount (modules.take index)
  | .examining moduleIndex list, data => data.2.2 = none ∧ data.2.1 = sensorCount modules ∧
      Listed data.1 list (listing (modules.take moduleIndex))
  | .copying moduleIndex rest list, data => data.2.2 = none ∧ data.2.1 = sensorCount modules ∧
      ∃ module done, modules[moduleIndex]? = some module ∧ module.sensors = done ++ rest ∧
        Listed data.1 list (listing (modules.take moduleIndex) ++
          done.map fun sensor => ⟨moduleIndex, sensor.handle⟩)
  | .deleting, data | .leavingSensors, data | .reading, data => Shared modules data
  | .returning list, data => Shared modules data ∧ data.2.2 = list
  | _, _ => True

/-- A list that is not there is not complete. -/
theorem not_shared {modules : List SubModule} {data : SensorsData} (absent : data.2.2 = none) :
    ¬ Shared modules data := by
  rintro ⟨sensors, present, -⟩
  rw [absent] at present
  cases present

/-- `init_sensors_mutex` -/
def sensorsLock (modules : List SubModule) : Discipline Stage SensorsData where
  Inside := Stage.HoldsSensors
  Free data := Unlisted data ∨ Shared modules data
  Knows := SensorsKnown modules
  Grows data later := Shared modules data → later = data
  lasts := by
    intro stage data later apart known grows
    cases stage with
    | checkingSensors | resetting | counting | examining | copying | deleting | leavingSensors =>
        exact absurd trivial apart
    | awaitingModules | checkingModules | loading | leavingModules =>
        exact fun listing => absurd listing apart
    | reading =>
        rwa [grows known]
    | returning =>
        rwa [grows known.1]
    | outside last =>
        cases last with
        | none => trivial
        | some returned => rwa [grows known.1]
    | newVersions | opening | awaitingSensors => trivial

/-! ## Steps -/

variable {soPaths : List (Option SubModule)} {modules : List SubModule}
  {loader next : Loader Thread} {thread : Thread}

/-- Both locks do their work. -/
structure Sound (soPaths : List (Option SubModule)) (loader : Loader Thread) : Prop where
  modulesUpheld :
    Upheld (modulesLock soPaths) loader.initModulesMutex loader.stage loader.modulesData
  sensorsUpheld : Upheld (sensorsLock soPaths.reduceOption) loader.initSensorsMutex loader.stage
    loader.sensorsData

/-- Step lemma for the inner lock: what it guards is as the threads know it. -/
theorem Step.modules_upheld (step : Step soPaths loader thread next)
    (upheld : Upheld (modulesLock soPaths) loader.initModulesMutex loader.stage
      loader.modulesData) :
    Upheld (modulesLock soPaths) next.initModulesMutex next.stage next.modulesData := by
  have known := upheld.knows thread
  cases step with
  | lockModules at_stage unlocked =>
      rw [unlocked] at upheld
      exact upheld.enter trivial (upheld.free rfl)
  | present at_stage present =>
      rw [at_stage] at known
      refine upheld.moved at_stage Iff.rfl fun _ => ?_
      rcases known with absent | tried
      · rw [modulesData, present] at absent
        cases absent
      · exact tried
  | create at_stage absent =>
      rw [at_stage] at known
      refine upheld.within at_stage trivial trivial (fun tried => ?_) ?_
      · rw [AllTried, modulesData, absent] at tried
        cases tried
      · rcases known with fresh | tried
        · refine ⟨[], rfl, ?_⟩
          rw [modulesData, Prod.mk.injEq] at fresh
          exact Prod.ext rfl fresh.2
        · rw [AllTried, modulesData, absent] at tried
          cases tried
  | @dlopen _ library rest modules at_stage present =>
      rw [at_stage] at known
      obtain ⟨tried, split, same⟩ := known
      rw [modulesData, present, Prod.mk.injEq, Option.some.injEq] at same
      refine upheld.within at_stage trivial trivial (fun all => ?_) ?_
      · -- This library has not been tried yet.
        have length : loader.tried.length = soPaths.length :=
          congrArg (fun data : ModulesData => data.2.length) all
        rw [same.2, ← split, List.length_append, List.length_cons] at length
        omega
      · refine ⟨tried ++ [library], by rw [← split, List.append_assoc]; rfl, ?_⟩
        simp only [modulesData, same.1, same.2, List.reduceOption_append,
          List.reduceOption_singleton]
  | loaded at_stage =>
      refine upheld.moved at_stage Iff.rfl ?_
      rintro ⟨tried, split, same⟩
      rw [List.append_nil] at split
      exact split ▸ same
  | @unlockModules caller at_stage =>
      rw [at_stage] at known
      refine upheld.leave at_stage trivial ?_ (Or.inr known) ?_
      · cases caller with
        | openSensors | sensorsList => exact id
      · cases caller with
        | openSensors | sensorsList => exact known
  | callOpen at_stage | callList at_stage | read at_stage | unlockSensors at_stage
  | delete at_stage | returned at_stage => exact upheld.moved at_stage Iff.rfl fun _ => trivial
  | lockSensors at_stage _ | listed at_stage _ | unlisted at_stage _ =>
      exact upheld.moved at_stage Iff.rfl fun _ => trivial
  | openedAll at_stage _ _ | publish at_stage _ _ =>
      exact upheld.moved at_stage Iff.rfl fun _ => trivial
  | newVersions at_stage | reset at_stage | copied at_stage =>
      exact upheld.moved at_stage Iff.rfl id
  | openFailed at_stage _ _ | count at_stage _ _ | counted at_stage _ _ | examine at_stage _ _ =>
      exact upheld.moved at_stage Iff.rfl id
  | opened _ at_stage _ _ _ | copy at_stage _ _ _ _ => exact upheld.moved at_stage Iff.rfl id

/-- One more module has been listed. -/
theorem listing_take_succ {index : Nat} {module : SubModule}
    (found : modules[index]? = some module) :
    listing (modules.take (index + 1)) =
      listing (modules.take index) ++ module.sensors.map fun sensor => ⟨index, sensor.handle⟩ := by
  suffices from_start : ∀ start, listingFrom start (modules.take (index + 1)) =
      listingFrom start (modules.take index) ++
        module.sensors.map fun sensor => ⟨(start + index : Nat), sensor.handle⟩ by
    simpa [listing] using from_start 0
  induction modules generalizing index with
  | nil => cases found
  | cons first rest ih =>
      intro start
      cases index with
      | zero =>
          cases found
          simp [listingFrom]
      | succ index =>
          rw [List.take_succ_cons, List.take_succ_cons, listingFrom, listingFrom,
            ih (by simpa using found), List.append_assoc, Nat.add_right_comm, Nat.add_assoc]

/-- One more module has been counted. -/
theorem sensorCount_take_succ {index : Nat} {module : SubModule}
    (found : modules[index]? = some module) :
    sensorCount (modules.take (index + 1)) =
      sensorCount (modules.take index) + module.sensors.length := by
  simp [sensorCount, List.take_add_one, found]

/-- What is known of the list at the last module, the list is complete with it. -/
theorem shared_of_listed {moduleIndex : Nat} {list : List Sensor} {data : SensorsData}
    (ended : modules[moduleIndex]? = none) (count : data.2.1 = sensorCount modules)
    (listed : Listed data.1 list (listing (modules.take moduleIndex))) :
    Shared modules (data.1, data.2.1, some list) := by
  rw [List.take_of_length_le (List.getElem?_eq_none_iff.mp ended)] at listed
  have length : list.length = sensorCount modules := by
    rw [← listed.length, listing, length_listingFrom, sensorCount]
  exact ⟨list, rfl, by rw [count, length], listed⟩

/-- Step lemma for the outer lock, with all modules loaded where a thread iterates over them. -/
theorem Step.sensors_upheld (step : Step soPaths loader thread next)
    (loaded : (loader.stage thread).UsesModules →
      loader.subHwModules = some soPaths.reduceOption)
    (upheld : Upheld (sensorsLock soPaths.reduceOption) loader.initSensorsMutex loader.stage
      loader.sensorsData) :
    Upheld (sensorsLock soPaths.reduceOption) next.initSensorsMutex next.stage
      next.sensorsData := by
  have known := upheld.knows thread
  cases step with
  | callOpen at_stage => exact upheld.moved at_stage (iff_of_false nofun id) fun _ => nofun
  | lockModules at_stage _ | create at_stage _ | present at_stage _ =>
      exact upheld.moved at_stage Iff.rfl id
  | dlopen at_stage _ | loaded at_stage => exact upheld.moved at_stage Iff.rfl id
  | @unlockModules caller at_stage =>
      cases caller with
      | openSensors => exact upheld.moved at_stage (iff_of_false id nofun) fun _ => trivial
      | sensorsList => exact upheld.moved at_stage (iff_of_true trivial rfl) fun known => known rfl
  | callList at_stage | newVersions at_stage =>
      exact upheld.moved at_stage Iff.rfl fun _ => trivial
  | opened _ at_stage _ _ _ => exact upheld.moved at_stage Iff.rfl fun _ => trivial
  | openFailed at_stage _ _ | openedAll at_stage _ _ =>
      exact upheld.moved at_stage Iff.rfl fun _ => trivial
  | lockSensors at_stage unlocked =>
      rw [unlocked] at upheld
      exact upheld.enter trivial (upheld.free rfl)
  | listed at_stage present =>
      rw [at_stage] at known
      refine upheld.moved at_stage Iff.rfl fun _ => ?_
      rcases known with unlisted | shared
      · have absent : loader.globalSensorsList = none := unlisted.2
        rw [present] at absent
        cases absent
      · exact shared
  | unlisted at_stage absent =>
      rw [at_stage] at known
      refine upheld.moved at_stage (iff_of_true rfl trivial) fun _ _ => ?_
      rcases known with unlisted | shared
      · exact unlisted
      · exact absurd shared (not_shared absent)
  | reset at_stage =>
      rw [at_stage] at known
      exact upheld.within at_stage trivial trivial
        (fun shared => absurd shared (not_shared known.2)) ⟨known, rfl⟩
  | @count index found module at_stage present entry =>
      rw [at_stage] at known loaded
      obtain rfl := Option.some.inj (present.symm.trans (loaded trivial))
      refine upheld.within at_stage trivial trivial
        (fun shared => absurd shared (not_shared known.1.2)) ⟨known.1, ?_⟩
      rw [sensorCount_take_succ entry, Nat.cast_add, ← known.2]
      rfl
  | @counted index found at_stage present ended =>
      rw [at_stage] at loaded
      obtain rfl := Option.some.inj (present.symm.trans (loaded trivial))
      refine upheld.moved at_stage Iff.rfl fun known => ⟨known.1.2, ?_, ?_⟩
      · rw [known.2, List.take_of_length_le (List.getElem?_eq_none_iff.mp ended)]
      · rw [known.1.1]
        exact empty_listed
  | @examine moduleIndex list found module at_stage present entry =>
      rw [at_stage] at loaded
      obtain rfl := Option.some.inj (present.symm.trans (loaded trivial))
      refine upheld.moved at_stage Iff.rfl fun known => ?_
      refine ⟨known.1, known.2.1, module, [], entry, rfl, ?_⟩
      rw [List.map_nil, List.append_nil]
      exact known.2.2
  | @copy moduleIndex localSensor rest list found module versions version at_stage _ _ _ _ =>
      rw [at_stage] at known
      obtain ⟨absent, count, source, done, entry, split, listed⟩ := known
      refine upheld.within at_stage trivial trivial
        (fun shared => absurd shared (not_shared absent))
        ⟨absent, count, source, done ++ [localSensor], entry, ?_, ?_⟩
      · rw [split, List.append_assoc]
        rfl
      · rw [List.map_append, ← List.append_assoc]
        exact listed.assign (fixSensorFlags_handle version _)
  | copied at_stage =>
      refine upheld.moved at_stage Iff.rfl ?_
      rintro ⟨absent, count, module, done, entry, split, listed⟩
      refine ⟨absent, count, ?_⟩
      rw [listing_take_succ entry, split, List.append_nil]
      exact listed
  | @publish moduleIndex list found at_stage present ended =>
      rw [at_stage] at known loaded
      obtain rfl := Option.some.inj (present.symm.trans (loaded trivial))
      obtain ⟨absent, count, listed⟩ := known
      exact upheld.within at_stage trivial trivial
        (fun shared => absurd shared (not_shared absent)) (shared_of_listed ended count listed)
  | delete at_stage => exact upheld.moved at_stage Iff.rfl id
  | unlockSensors at_stage =>
      rw [at_stage] at known
      exact upheld.leave at_stage trivial id (Or.inr known) known
  | read at_stage => exact upheld.moved at_stage Iff.rfl fun known => ⟨known, rfl⟩
  | returned at_stage =>
      exact upheld.moved at_stage Iff.rfl fun known => ⟨known.1, rfl, known.2⟩

omit [DecidableEq Thread] in
/-- A thread that iterates over the modules finds all of them. -/
theorem Sound.loaded (sound : Sound soPaths loader)
    (uses : (loader.stage thread).UsesModules) : loader.modulesData = (some soPaths.reduceOption,
      soPaths) := by
  have known := sound.modulesUpheld.knows thread
  cases at_stage : loader.stage thread with
  | newVersions | opening | resetting | counting | examining | copying =>
      rw [at_stage] at known
      exact known
  | outside | awaitingModules | checkingModules | loading | leavingModules | awaitingSensors
  | checkingSensors | deleting | leavingSensors | reading | returning =>
      rw [at_stage] at uses
      exact uses.elim

/-- Run lemma: both locks are kept. -/
theorem reachable_sound (reachable : (system soPaths).Reachable loader) : Sound soPaths loader := by
  refine TransitionSystem.invariant ?_ ?_ reachable
  · rintro _ rfl
    constructor
    · exact ⟨fun _ => iff_of_false id (Option.some_ne_none _).symm, fun _ => Or.inl rfl,
        fun _ => trivial⟩
    · exact ⟨fun _ => iff_of_false id (Option.some_ne_none _).symm, fun _ => Or.inl ⟨rfl, rfl⟩,
        fun _ => trivial⟩
  · rintro loader next sound ⟨thread, step⟩
    have loaded : (loader.stage thread).UsesModules →
        loader.subHwModules = some soPaths.reduceOption :=
      fun uses => congrArg Prod.fst (sound.loaded uses)
    exact ⟨step.modules_upheld sound.modulesUpheld,
      step.sensors_upheld loaded sound.sensorsUpheld⟩

omit [DecidableEq Thread] in
/-- No library is tried twice. -/
theorem Sound.tried (sound : Sound soPaths loader) : loader.tried <+: soPaths := by
  have of_free : (loader.modulesData = (none, []) ∨ AllTried soPaths loader.modulesData) →
      loader.tried <+: soPaths := by
    rintro (fresh | all)
    · have none : loader.tried = [] := congrArg Prod.snd fresh
      rw [none]
      exact List.nil_prefix
    · have all : loader.tried = soPaths := congrArg Prod.snd all
      rw [all]
  cases modules : loader.initModulesMutex with
  | none => exact of_free (sound.modulesUpheld.free modules)
  | some holder =>
      have inside : (loader.stage holder).HoldsModules :=
        (sound.modulesUpheld.holds holder).mpr modules
      have known := sound.modulesUpheld.knows holder
      cases at_stage : loader.stage holder with
      | checkingModules =>
          rw [at_stage] at known
          exact of_free known
      | leavingModules =>
          rw [at_stage] at known
          exact of_free (Or.inr known)
      | loading =>
          rw [at_stage] at known
          obtain ⟨tried, split, same⟩ := known
          have same : loader.tried = tried := congrArg Prod.snd same
          rw [same, ← split]
          exact List.prefix_append _ _
      | _ =>
          rw [at_stage] at inside
          exact inside.elim

/-- Whatever the threads do, every library is tried at most once and in order, a thread that
iterates over the modules finds all that could be loaded, and what a call of `get_sensors_list`
has returned is, also later, the one complete list. -/
theorem init_shared (reachable : (system soPaths).Reachable loader) :
    loader.tried <+: soPaths ∧
    (∀ thread, (loader.stage thread).UsesModules →
      loader.subHwModules = some soPaths.reduceOption ∧ loader.tried = soPaths) ∧
    ∀ thread count list, loader.stage thread = .outside (some (count, list)) →
      ∃ sensors, list = some sensors ∧ loader.globalSensorsList = some sensors ∧
        count = sensors.length ∧ Listed loader.registry sensors (listing soPaths.reduceOption) := by
  have sound := reachable_sound reachable
  refine ⟨sound.tried, fun thread uses => Prod.mk.inj (sound.loaded uses), ?_⟩
  intro thread count list returned
  have known := sound.sensorsUpheld.knows thread
  rw [returned] at known
  obtain ⟨⟨sensors, present, length, listed⟩, same, last⟩ := known
  exact ⟨sensors, last.symm.trans present, present, same.symm.trans length, listed⟩

/-- A library that cannot be loaded and one whose module lists a sensor. -/
def twoLibraries : List (Option SubModule) := [none, some ⟨0, [⟨5, 1, 0, 0, 0⟩]⟩]

/-- For example if one thread opens the devices while the other fetches the list: the second waits
until the first has loaded the libraries. -/
theorem init_shared_opening : ∃ loader : Loader Bool, ∃ sensors,
    (system twoLibraries).Reachable loader ∧ loader.stage true = .outside none ∧
      loader.stage false = .outside (some (1, some sensors)) ∧ sensors.length = 1 ∧
      loader.globalSensorsList = some sensors ∧ loader.tried <+: twoLibraries := by
  have start : (system twoLibraries).Reachable (initial : Loader Bool) := .initial rfl
  have opens := (start.step ⟨true, .callOpen rfl⟩).step ⟨true, .lockModules rfl rfl⟩
  have calls := ((opens.step ⟨false, .callList rfl⟩).step ⟨true, .create rfl rfl⟩).step
    ⟨false, .lockSensors rfl rfl⟩
  have tries := (calls.step ⟨true, .dlopen rfl rfl⟩).step ⟨false, .unlisted rfl rfl⟩
  have loads := (tries.step ⟨true, .dlopen rfl rfl⟩).step ⟨true, .loaded rfl⟩
  have enters := (loads.step ⟨true, .unlockModules rfl⟩).step ⟨false, .lockModules rfl rfl⟩
  have versions := (enters.step ⟨true, .newVersions rfl⟩).step ⟨false, .present rfl rfl⟩
  have opened := (versions.step ⟨true, .opened 1 rfl rfl rfl rfl⟩).step
    ⟨true, .openedAll rfl rfl rfl⟩
  have counts := ((opened.step ⟨false, .unlockModules rfl⟩).step ⟨false, .reset rfl⟩).step
    ⟨false, .count rfl rfl rfl⟩
  have copies := ((counts.step ⟨false, .counted rfl rfl rfl⟩).step
    ⟨false, .examine rfl rfl rfl⟩).step ⟨false, .copy rfl rfl rfl rfl rfl⟩
  have lists := (copies.step ⟨false, .copied rfl⟩).step ⟨false, .publish rfl rfl rfl⟩
  have unlocks := (lists.step ⟨false, .delete rfl⟩).step ⟨false, .unlockSensors rfl⟩
  have returns := (unlocks.step ⟨false, .read rfl⟩).step ⟨false, .returned rfl⟩
  obtain ⟨tried, -, shared⟩ := init_shared returns
  obtain ⟨sensors, same, published, -⟩ := shared false _ _ rfl
  cases same
  exact ⟨_, _, returns, rfl, rfl, rfl, published, tried⟩

/-! ## Nobody waits forever -/

/-- The map of versions is gone or has no entry, so that the process ends. -/
inductive Faults (loader : Loader Thread) (thread : Thread) : Prop where
  | lookup {moduleIndex localSensor rest list modules module} :
      loader.stage thread = .copying moduleIndex (localSensor :: rest) list →
      loader.subHwModules = some modules → modules[moduleIndex]? = some module →
      loader.subHwVersions.bind (fun versions => versions.lookup module.address) = none →
      Faults loader thread
  | insert {index modules module} : loader.stage thread = .opening index →
      loader.subHwModules = some modules → modules[index]? = some module →
      loader.subHwVersions = none → Faults loader thread

/-- A thread inside a call goes on unless it waits for a lock. -/
theorem Sound.goes (sound : Sound soPaths loader) (busy : (loader.stage thread).Busy)
    (modulesFree : ∀ caller, loader.stage thread = .awaitingModules caller →
      loader.initModulesMutex = none)
    (sensorsFree : loader.stage thread = .awaitingSensors → loader.initSensorsMutex = none) :
    (∃ next, Step soPaths loader thread next) ∨ Faults loader thread := by
  have modulesKnown := sound.modulesUpheld.knows thread
  have sensorsKnown := sound.sensorsUpheld.knows thread
  have loaded : (loader.stage thread).UsesModules →
      loader.subHwModules = some soPaths.reduceOption :=
    fun uses => congrArg Prod.fst (sound.loaded uses)
  cases at_stage : loader.stage thread with
  | outside last =>
      rw [at_stage] at busy
      exact busy.elim
  | awaitingModules caller =>
      exact Or.inl ⟨_, .lockModules at_stage (modulesFree caller at_stage)⟩
  | checkingModules caller =>
      cases present : loader.subHwModules with
      | none => exact Or.inl ⟨_, .create at_stage present⟩
      | some modules => exact Or.inl ⟨_, .present at_stage present⟩
  | loading caller rest =>
      rw [at_stage] at modulesKnown
      obtain ⟨tried, -, same⟩ := modulesKnown
      cases rest with
      | nil => exact Or.inl ⟨_, .loaded at_stage⟩
      | cons library rest => exact Or.inl ⟨_, .dlopen at_stage (congrArg Prod.fst same)⟩
  | leavingModules caller => exact Or.inl ⟨_, .unlockModules at_stage⟩
  | newVersions => exact Or.inl ⟨_, .newVersions at_stage⟩
  | opening index =>
      rw [at_stage] at loaded
      cases entry : soPaths.reduceOption[index]? with
      | none => exact Or.inl ⟨_, .openedAll at_stage (loaded trivial) entry⟩
      | some module =>
          cases present : loader.subHwVersions with
          | none => exact Or.inr (.insert at_stage (loaded trivial) entry present)
          | some versions => exact Or.inl ⟨_, .openFailed at_stage (loaded trivial) entry⟩
  | awaitingSensors => exact Or.inl ⟨_, .lockSensors at_stage (sensorsFree at_stage)⟩
  | checkingSensors =>
      cases present : loader.globalSensorsList with
      | none => exact Or.inl ⟨_, .unlisted at_stage present⟩
      | some sensors => exact Or.inl ⟨_, .listed at_stage present⟩
  | resetting => exact Or.inl ⟨_, .reset at_stage⟩
  | counting index =>
      rw [at_stage] at loaded
      cases entry : soPaths.reduceOption[index]? with
      | none => exact Or.inl ⟨_, .counted at_stage (loaded trivial) entry⟩
      | some module => exact Or.inl ⟨_, .count at_stage (loaded trivial) entry⟩
  | examining moduleIndex list =>
      rw [at_stage] at loaded
      cases entry : soPaths.reduceOption[moduleIndex]? with
      | none => exact Or.inl ⟨_, .publish at_stage (loaded trivial) entry⟩
      | some module => exact Or.inl ⟨_, .examine at_stage (loaded trivial) entry⟩
  | copying moduleIndex rest list =>
      rw [at_stage] at loaded sensorsKnown
      obtain ⟨-, -, module, done, entry, -, -⟩ := sensorsKnown
      cases rest with
      | nil => exact Or.inl ⟨_, .copied at_stage⟩
      | cons localSensor rest =>
          cases found : loader.subHwVersions.bind fun versions =>
              versions.lookup module.address with
          | none => exact Or.inr (.lookup at_stage (loaded trivial) entry found)
          | some version =>
              obtain ⟨versions, present, known⟩ := Option.bind_eq_some_iff.mp found
              exact Or.inl ⟨_, .copy at_stage (loaded trivial) entry present known⟩
  | deleting => exact Or.inl ⟨_, .delete at_stage⟩
  | leavingSensors => exact Or.inl ⟨_, .unlockSensors at_stage⟩
  | reading => exact Or.inl ⟨_, .read at_stage⟩
  | returning list => exact Or.inl ⟨_, .returned at_stage⟩

/-- The holder of `init_modules_mutex` goes on. -/
theorem Sound.modules_holder (sound : Sound soPaths loader)
    (holds : loader.initModulesMutex = some thread) : (loader.stage thread).Busy ∧
      ((∃ next, Step soPaths loader thread next) ∨ Faults loader thread) := by
  have inside : (loader.stage thread).HoldsModules := (sound.modulesUpheld.holds thread).mpr holds
  have busy : (loader.stage thread).Busy := inside.busy
  refine ⟨busy, sound.goes busy (fun caller at_stage => ?_) fun at_stage => ?_⟩
  · rw [at_stage] at inside
    exact inside.elim
  · rw [at_stage] at inside
    exact inside.elim

/-- While a thread is in one of the two calls, some thread goes on with its own, unless the process
ends for lack of a version. -/
theorem init_progress (reachable : (system soPaths).Reachable loader)
    (busy : ∃ thread, (loader.stage thread).Busy) :
    ∃ thread, (loader.stage thread).Busy ∧
      ((∃ next, Step soPaths loader thread next) ∨ Faults loader thread) := by
  have sound := reachable_sound reachable
  obtain ⟨thread, busy⟩ := busy
  cases modules : loader.initModulesMutex with
  | some holder => exact ⟨holder, sound.modules_holder modules⟩
  | none =>
      cases sensors : loader.initSensorsMutex with
      | none => exact ⟨thread, busy, sound.goes busy (fun _ _ => modules) fun _ => sensors⟩
      | some holder =>
          -- The holder of the outer lock waits at most for the inner one, which is free.
          have inside : (loader.stage holder).HoldsSensors :=
            (sound.sensorsUpheld.holds holder).mpr sensors
          have busy : (loader.stage holder).Busy := inside.busy
          refine ⟨holder, busy, sound.goes busy (fun _ _ => modules) fun at_stage => ?_⟩
          rw [at_stage] at inside
          exact inside.elim

/-- For example if both locks are held by different threads, of which one waits for the other. -/
theorem init_progress_waiting : ∃ loader : Loader Bool, (system twoLibraries).Reachable loader ∧
    loader.initModulesMutex = some true ∧ loader.initSensorsMutex = some false ∧
      loader.stage false = .awaitingModules .sensorsList ∧
      ∃ thread, (loader.stage thread).Busy ∧
        ((∃ next, Step twoLibraries loader thread next) ∨ Faults loader thread) := by
  have start : (system twoLibraries).Reachable (initial : Loader Bool) := .initial rfl
  have opens := (start.step ⟨true, .callOpen rfl⟩).step ⟨true, .lockModules rfl rfl⟩
  have calls := (opens.step ⟨false, .callList rfl⟩).step ⟨false, .lockSensors rfl rfl⟩
  have waits := calls.step ⟨false, .unlisted rfl rfl⟩
  exact ⟨_, waits, rfl, rfl, rfl, init_progress waits ⟨false, trivial⟩⟩

/-! ## A call that nobody disturbs -/

/-- The thread takes any number of steps, the others none. -/
abbrev Alone (soPaths : List (Option SubModule)) (thread : Thread) :
    Loader Thread → Loader Thread → Prop :=
  Relation.ReflTransGen fun loader next => Step soPaths loader thread next

/-- The variables as the calls see them that come one after the other. -/
structure Sees (loader : Loader Thread) (hal : Hal) : Prop where
  subHwModules : loader.subHwModules = some hal.subHwModules
  subHwVersions : loader.subHwVersions = hal.subHwVersions
  registry : loader.registry = hal.registry
  globalSensorsList : loader.globalSensorsList = hal.globalSensorsList

/-- A thread that nobody disturbs copies the sensors of a module. -/
theorem copySensors_alone {versions : Option Versions} {moduleIndex : Nat} {module : SubModule}
    {rest list finalList : List Sensor} {final : Registry}
    (at_stage : loader.stage thread = .copying moduleIndex rest list)
    (present : loader.subHwModules = some modules) (entry : modules[moduleIndex]? = some module)
    (map : loader.subHwVersions = versions)
    (copied : copySensors versions moduleIndex module rest (loader.registry, list) =
      some (final, finalList)) :
    Alone soPaths thread loader
      { loader.moved thread (.copying moduleIndex [] finalList) with registry := final } := by
  induction rest generalizing loader list with
  | nil =>
      cases copied
      have same : loader.moved thread (.copying moduleIndex [] finalList) = loader := by
        rw [moved, ← at_stage, Function.update_eq_self]
      rw [same]
  | cons localSensor rest ih =>
      obtain ⟨versions', found, copied⟩ := Option.bind_eq_some_iff.mp copied
      obtain ⟨version, known, copied⟩ := Option.bind_eq_some_iff.mp copied
      let assigned := loader.registry.assignGlobalHandle moduleIndex localSensor.handle
      let sensor := fixSensorFlags version { localSensor with handle := assigned.1 }
      let next : Loader Thread :=
        { loader.moved thread (.copying moduleIndex rest (list ++ [sensor])) with
          registry := assigned.2 }
      have first : Step soPaths loader thread next :=
        .copy at_stage present entry (map.trans found) known
      have later : Alone soPaths thread next
          { next.moved thread (.copying moduleIndex [] finalList) with registry := final } :=
        ih (moved_stage ..) present map copied
      have same : next.moved thread (.copying moduleIndex [] finalList) =
          { loader.moved thread (.copying moduleIndex [] finalList) with
            registry := assigned.2 } := by
        simp [next, moved]
      rw [same] at later
      exact .head first later

/-- It copies those of all modules that are left. -/
theorem copyModules_alone {versions : Option Versions} {moduleIndex : Nat}
    {rest : List SubModule} {list finalList : List Sensor} {final : Registry}
    (at_stage : loader.stage thread = .examining moduleIndex list)
    (present : loader.subHwModules = some modules) (left : modules.drop moduleIndex = rest)
    (map : loader.subHwVersions = versions)
    (copied : copyModules versions moduleIndex rest (loader.registry, list) =
      some (final, finalList)) :
    ∃ last, modules[last]? = none ∧ Alone soPaths thread loader
      { loader.moved thread (.examining last finalList) with registry := final } := by
  induction rest generalizing loader list moduleIndex with
  | nil =>
      cases copied
      have same : loader.moved thread (.examining moduleIndex finalList) = loader := by
        rw [moved, ← at_stage, Function.update_eq_self]
      refine ⟨moduleIndex, List.getElem?_eq_none (List.drop_eq_nil_iff.mp left), ?_⟩
      rw [same]
  | cons module rest ih =>
      obtain ⟨⟨registry, sensors⟩, one, copied⟩ := Option.bind_eq_some_iff.mp copied
      have entry : modules[moduleIndex]? = some module := by
        rw [← Nat.add_zero moduleIndex, ← List.getElem?_drop, left]
        rfl
      have tail : modules.drop (moduleIndex + 1) = rest := by
        rw [← List.drop_drop, left]
        rfl
      have first : Step soPaths loader thread
          (loader.moved thread (.copying moduleIndex module.sensors list)) :=
        .examine at_stage present entry
      have sensorsCopied : Alone soPaths thread
          (loader.moved thread (.copying moduleIndex module.sensors list))
          { (loader.moved thread (.copying moduleIndex module.sensors list)).moved thread
              (.copying moduleIndex [] sensors) with registry := registry } :=
        copySensors_alone (moved_stage ..) present entry map one
      let next : Loader Thread :=
        { loader.moved thread (.examining (moduleIndex + 1) sensors) with registry := registry }
      have second : Step soPaths
          { (loader.moved thread (.copying moduleIndex module.sensors list)).moved thread
              (.copying moduleIndex [] sensors) with registry := registry } thread next := by
        let copied : Loader Thread :=
          { (loader.moved thread (.copying moduleIndex module.sensors list)).moved thread
              (.copying moduleIndex [] sensors) with registry := registry }
        have back : Step soPaths copied thread
            (copied.moved thread (.examining (moduleIndex + 1) sensors)) :=
          .copied (moved_stage ..)
        simpa [moved, next, copied] using back
      obtain ⟨last, ended, later⟩ :=
        @ih next (moduleIndex + 1) sensors (moved_stage ..) present tail map copied
      refine ⟨last, ended, .head first (sensorsCopied.trans (.head second ?_))⟩
      simpa [next, moved] using later

/-- It counts the sensors before. -/
theorem counting_alone {index : Nat} (at_stage : loader.stage thread = .counting index)
    (present : loader.subHwModules = some modules) :
    ∃ total, Alone soPaths thread loader
      { loader.moved thread (.examining 0 []) with globalSensorsCount := total } := by
  generalize left : modules.drop index = rest
  induction rest generalizing loader index with
  | nil =>
      have ended := List.getElem?_eq_none (List.drop_eq_nil_iff.mp left)
      exact ⟨loader.globalSensorsCount, .single (.counted at_stage present ended)⟩
  | cons module rest ih =>
      have entry : modules[index]? = some module := by
        rw [← Nat.add_zero index, ← List.getElem?_drop, left]
        rfl
      have tail : modules.drop (index + 1) = rest := by
        rw [← List.drop_drop, left]
        rfl
      let next : Loader Thread :=
        { loader.moved thread (.counting (index + 1)) with
          globalSensorsCount := loader.globalSensorsCount + module.sensors.length }
      have first : Step soPaths loader thread next := .count at_stage present entry
      obtain ⟨total, later⟩ := @ih next (index + 1) (moved_stage ..) present tail
      exact ⟨total, .head first (by simpa [next, moved] using later)⟩

/-- A call of `lazy_init_sensors_list` during which nobody else takes a step does what it does when
the calls come one after the other. -/
theorem lazyInitSensorsList_alone {hal final : Hal}
    (at_stage : loader.stage thread = .awaitingSensors) (sees : loader.Sees hal)
    (modulesFree : loader.initModulesMutex = none) (sensorsFree : loader.initSensorsMutex = none)
    (ran : lazyInitSensorsList hal = some final) :
    ∃ after, Alone soPaths thread loader after ∧
      after.stage = Function.update loader.stage thread .reading ∧ after.Sees final := by
  let locked : Loader Thread :=
    { loader.moved thread .checkingSensors with initSensorsMutex := some thread }
  have lock : Step soPaths loader thread locked := .lockSensors at_stage sensorsFree
  unfold lazyInitSensorsList at ran
  split at ran
  next sensors published =>
    cases ran
    let checked : Loader Thread := locked.moved thread .leavingSensors
    have check : Step soPaths locked thread checked :=
      .listed (moved_stage ..) (sees.globalSensorsList.trans published)
    have unlock : Step soPaths checked thread
        { checked.moved thread .reading with initSensorsMutex := none } :=
      .unlockSensors (moved_stage ..)
    refine ⟨_, .head lock (.head check (.single unlock)), ?_, ?_⟩
    · simp [locked, checked, moved]
    · exact ⟨sees.subHwModules, sees.subHwVersions, sees.registry, sees.globalSensorsList⟩
  next unpublished =>
    obtain ⟨⟨registry, sensors⟩, copied, ended⟩ := Option.bind_eq_some_iff.mp ran
    cases ended
    let unlisted : Loader Thread := locked.moved thread (.awaitingModules .sensorsList)
    have unlist : Step soPaths locked thread unlisted :=
      .unlisted (moved_stage ..) (sees.globalSensorsList.trans unpublished)
    let checking : Loader Thread :=
      { unlisted.moved thread (.checkingModules .sensorsList) with initModulesMutex := some thread }
    have check : Step soPaths unlisted thread checking := .lockModules (moved_stage ..) modulesFree
    let leaving : Loader Thread := checking.moved thread (.leavingModules .sensorsList)
    have leave : Step soPaths checking thread leaving :=
      .present (moved_stage ..) sees.subHwModules
    let resetting : Loader Thread :=
      { leaving.moved thread .resetting with initModulesMutex := none }
    have unlock : Step soPaths leaving thread resetting := .unlockModules (moved_stage ..)
    let counting : Loader Thread :=
      { resetting.moved thread (.counting 0) with globalSensorsCount := 0 }
    have reset : Step soPaths resetting thread counting := .reset (moved_stage ..)
    obtain ⟨total, count⟩ : ∃ total, Alone soPaths thread counting
        { counting.moved thread (.examining 0 []) with globalSensorsCount := total } :=
      counting_alone (moved_stage ..) sees.subHwModules
    let counted : Loader Thread :=
      { counting.moved thread (.examining 0 []) with globalSensorsCount := total }
    have copied : copyModules hal.subHwVersions 0 hal.subHwModules (counted.registry, []) =
        some (registry, sensors) := by
      rw [← sees.registry] at copied
      exact copied
    obtain ⟨last, ended, copy⟩ : ∃ last, hal.subHwModules[last]? = none ∧
        Alone soPaths thread counted
          { counted.moved thread (.examining last sensors) with registry := registry } :=
      copyModules_alone (moved_stage ..) sees.subHwModules rfl sees.subHwVersions copied
    let listed : Loader Thread :=
      { counted.moved thread (.examining last sensors) with registry := registry }
    let deleting : Loader Thread :=
      { listed.moved thread .deleting with globalSensorsList := some sensors }
    have publish : Step soPaths listed thread deleting :=
      .publish (moved_stage ..) sees.subHwModules ended
    let deleted : Loader Thread :=
      { deleting.moved thread .leavingSensors with subHwVersions := none }
    have delete : Step soPaths deleting thread deleted := .delete (moved_stage ..)
    have back : Step soPaths deleted thread
        { deleted.moved thread .reading with initSensorsMutex := none } :=
      .unlockSensors (moved_stage ..)
    have loads : Alone soPaths thread loader counting :=
      .head lock (.head unlist (.head check (.head leave (.head unlock (.single reset)))))
    have ends : Alone soPaths thread listed
        { deleted.moved thread .reading with initSensorsMutex := none } :=
      .head publish (.head delete (.single back))
    refine ⟨_, loads.trans (count.trans (copy.trans ends)), ?_, ?_⟩
    · simp [locked, unlisted, checking, leaving, resetting, counting, counted, listed, deleting,
        deleted, moved]
    · exact ⟨sees.subHwModules, rfl, rfl, rfl⟩

end Loader

end T00F.Sensors
