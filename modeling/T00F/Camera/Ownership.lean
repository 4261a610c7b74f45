import T00F.Camera.Wrapper

/-!
# Who owns the parameter strings

`fixed_set_params` holds a string for each camera, but an open replaces the whole array
and a close frees all of it. `allSteps_iff` says in which sequences of calls every string
is used properly and stays with its camera.
-/

namespace T00F.Camera

open Systems

/-- The parameter string that a camera has stored. -/
def Wrapper.stored (wrapper : Wrapper) (id : Nat) : Option Nat :=
  match wrapper.fixedSetParams with
  | none => none
  | some params => params id

/-- A string is allocated and not freed, and neither is any that was used. -/
def Wrapper.IsLive (wrapper : Wrapper) (string : Nat) : Prop :=
  ∃ lives, replay (fun _ => .fresh) wrapper.strings = some lives ∧ lives string = .live

/-- A call that closes a camera or fails to open one. -/
def Op.LeavesOthers (numCameras : Nat) (wrapper : Wrapper) : Op → Prop
  | .deviceOpen io name => (cameraDeviceOpen numCameras io name wrapper).1 ≠ 0
  | .setParameters _ _ _ => False
  | .deviceClose _ => True

/-- What a call has to respect: whatever was freed or given to the vendor up to its end
was live, and a close or a failed open leaves the parameters of the cameras that are
still open in place. -/
structure Sound (numCameras : Nat) (wrapper : Wrapper) (op : Op) (next : Wrapper) : Prop where
  live : ∃ lives, replay (fun _ => .fresh) next.strings = some lives
  inPlace : op.LeavesOthers numCameras wrapper → ∀ device ∈ next.devices,
    next.stored device.id = wrapper.stored device.id ∧
      ∀ string, wrapper.stored device.id = some string → next.IsLive string

/-- When a camera is closed, no other one has parameters in the array; when an open
fails after it has replaced the array, no open camera has. -/
def Guarded (numCameras : Nat) (wrapper : Wrapper) (op : Op) (_next : Wrapper) : Prop :=
  match op with
  | .deviceOpen io (some name) =>
      io.Reaches numCameras name → ¬ io.Succeeds →
        ∀ device ∈ wrapper.devices, wrapper.stored device.id = none
  | .deviceOpen _ none => True
  | .setParameters _ _ _ => True
  | .deviceClose (some device) => ∀ id < numCameras, id ≠ device.id → wrapper.stored id = none
  | .deviceClose none => True

/-! ## What holds between guarded calls -/

/-- The stages of the strings in a state: what an open camera has stored is live, what
others have left in the array is freed. -/
structure Entries (wrapper : Wrapper) (lives : Nat → Life) : Prop where
  unused : ∀ string ≥ wrapper.next, lives string = .fresh
  live : ∀ device ∈ wrapper.devices, ∀ string, wrapper.stored device.id = some string →
    lives string = .live
  dangling : ∀ id string, wrapper.stored id = some string →
    (∀ device ∈ wrapper.devices, device.id ≠ id) → lives string = .released
  apart : ∀ first second string, wrapper.stored first = some string →
    wrapper.stored second = some string → first = second

/-- The open cameras are different ones, and the log accounts for the strings. -/
structure Inv (numCameras : Nat) (wrapper : Wrapper) : Prop where
  ids : (wrapper.devices.map WrapperCameraDevice.id).Nodup
  counted : ∀ device ∈ wrapper.devices, device.id < numCameras
  inside : ∀ id string, wrapper.stored id = some string → id < numCameras
  entries : ∃ lives, replay (fun _ => .fresh) wrapper.strings = some lives ∧ Entries wrapper lives

/-- A stored string was allocated. -/
theorem Entries.not_fresh {wrapper : Wrapper} {lives : Nat → Life}
    (entries : Entries wrapper lives) {id string : Nat} (stored : wrapper.stored id = some string) :
    lives string ≠ .fresh := by
  by_cases opened : ∃ device ∈ wrapper.devices, device.id = id
  · obtain ⟨device, member, rfl⟩ := opened
    rw [entries.live device member string stored]
    nofun
  · have closed : ∀ device ∈ wrapper.devices, device.id ≠ id := fun device member same =>
      opened ⟨device, member, same⟩
    rw [entries.dangling id string stored closed]
    nofun

/-- What is stored has a number below those that are unused. -/
theorem Entries.ne_next {wrapper : Wrapper} {lives : Nat → Life}
    (entries : Entries wrapper lives) {id string : Nat} (stored : wrapper.stored id = some string) :
    string ≠ wrapper.next := by
  rintro rfl
  exact entries.not_fresh stored (entries.unused wrapper.next (Nat.le_refl _))

/-- Before any call the invariant holds. -/
theorem initial_inv (numCameras : Nat) : Inv numCameras .initial where
  ids := List.nodup_nil
  counted := nofun
  inside := nofun
  entries := ⟨fun _ => .fresh, rfl, ⟨fun _ _ => rfl, nofun, nofun, nofun⟩⟩

/-- An `open` that replaces the wrapper's camera leaves it without parameters. -/
theorem Replaced.stored {wrapper next : Wrapper} (replaced : Replaced wrapper next) (id : Nat) :
    next.stored id = none := by
  unfold Wrapper.stored
  rcases replaced.params with null | empty
  · rw [null]
  · rw [empty]

/-- After an open has replaced the array, nothing is stored. -/
theorem Replaced.inv {numCameras : Nat} {wrapper next : Wrapper} (inv : Inv numCameras wrapper)
    (replaced : Replaced wrapper next)
    (ids : (next.devices.map WrapperCameraDevice.id).Nodup)
    (counted : ∀ device ∈ next.devices, device.id < numCameras) : Inv numCameras next where
  ids := ids
  counted := counted
  inside id string stored := by
    rw [replaced.stored] at stored
    cases stored
  entries := by
    obtain ⟨lives, replayed, entries⟩ := inv.entries
    refine ⟨lives, by rw [replaced.strings, replayed], ?_⟩
    constructor
    case unused =>
      intro string above
      have serials := replaced.serials
      exact entries.unused string (by omega)
    case live =>
      intro device _ string stored
      rw [replaced.stored] at stored
      cases stored
    case dangling =>
      intro id string stored
      rw [replaced.stored] at stored
      cases stored
    case apart =>
      intro first second string stored
      rw [replaced.stored] at stored
      cases stored

/-! ## Opening -/

/-- Under the invariant the log of the strings replays. -/
theorem Inv.replays {numCameras : Nat} {wrapper : Wrapper} (inv : Inv numCameras wrapper) :
    ∃ lives, replay (fun _ => .fresh) wrapper.strings = some lives := by
  obtain ⟨lives, replayed, _⟩ := inv.entries
  exact ⟨lives, replayed⟩

/-- In a state between calls the cameras have their parameters in place. -/
theorem Inv.isLive {numCameras : Nat} {wrapper : Wrapper} (inv : Inv numCameras wrapper)
    {device : WrapperCameraDevice} (opened : device ∈ wrapper.devices) {string : Nat}
    (stored : wrapper.stored device.id = some string) : wrapper.IsLive string := by
  obtain ⟨lives, replayed, entries⟩ := inv.entries
  exact ⟨lives, replayed, entries.live device opened string stored⟩

/-- An allowed `open` keeps the invariant, and is sound exactly when it is guarded. -/
theorem deviceOpen_step {numCameras : Nat} {wrapper : Wrapper} (inv : Inv numCameras wrapper)
    {io : OpenIo} {name : Option (List Byte)}
    (allowed : (Op.deviceOpen io name).Allowed wrapper) :
    let next := (cameraDeviceOpen numCameras io name wrapper).2.2
    Inv numCameras next ∧ (Sound numCameras wrapper (.deviceOpen io name) next ↔
      Guarded numCameras wrapper (.deviceOpen io name) next) := by
  intro next
  rcases cameraDeviceOpen_cases numCameras io name wrapper with
    ⟨early, same⟩ | ⟨text, rfl, reaches, replaced,
      ⟨fails, code, devices⟩ | ⟨succeeds, code, devices⟩⟩
  · -- Nothing has changed.
    have unchanged : next = wrapper := same
    rw [unchanged]
    refine ⟨inv, iff_of_true ⟨inv.replays, fun _ device opened =>
      ⟨rfl, fun string => inv.isLive opened⟩⟩ ?_⟩
    cases name with
    | none => exact trivial
    | some text => exact fun reaches => absurd reaches (early text rfl)
  · -- The array is gone, which matters to the cameras that had stored something.
    have kept : Inv numCameras next := replaced.inv inv (by rw [devices]; exact inv.ids)
      (by rw [devices]; exact inv.counted)
    refine ⟨kept, fun sound reaches _ device opened => ?_, fun guarded => ?_⟩
    · have unmoved := (sound.inPlace code device (by rwa [devices])).1
      rw [replaced.stored] at unmoved
      exact unmoved.symm
    · refine ⟨kept.replays, fun _ device opened => ?_⟩
      rw [devices] at opened
      have empty := guarded reaches fails device opened
      rw [empty, replaced.stored]
      exact ⟨rfl, nofun⟩
  · have fresh : ∀ device ∈ wrapper.devices, device.id ≠ (atoi text).toNat := by
      intro device opened same
      have other := allowed device opened
      have range := reaches.2
      omega
    have kept : Inv numCameras next := by
      refine replaced.inv inv ?_ ?_
      · rw [devices, List.map_append, List.map_singleton, List.nodup_append]
        refine ⟨inv.ids, List.nodup_singleton _, ?_⟩
        intro id member other single same
        obtain ⟨device, opened, rfl⟩ := List.mem_map.mp member
        rw [List.mem_singleton] at single
        exact fresh device opened (same.trans single)
      · rw [devices]
        intro device member
        rcases List.mem_append.mp member with opened | single
        · exact inv.counted device opened
        · rw [List.mem_singleton.mp single]
          have range := reaches.2
          dsimp only
          omega
    refine ⟨kept, iff_of_true ⟨kept.replays, fun failed => absurd code failed⟩ ?_⟩
    exact fun _ fails => absurd succeeds fails

/-! ## Setting parameters -/

/-- The stages after the old string of a camera was freed and a copy was made. -/
def setLives (lives : Nat → Life) (old copy : Option Nat) : Nat → Life := fun string =>
  if copy = some string then .live else if old = some string then .released else lives string

/-- Replacing a live string by a copy replays. -/
theorem replay_set {lives : Nat → Life} {old : Option Nat} {fresh : Nat} (strdup : Bool)
    (live : ∀ string, old = some string → lives string = .live)
    (unused : lives fresh = .fresh) :
    let copy := if strdup then some fresh else none
    replay lives ((old.map Use.release).toList ++ (copy.map Use.acquire).toList ++
      (copy.map Use.touch).toList) = some (setLives lives old copy) := by
  intro copy
  cases old with
  | none =>
      cases strdup with
      | false => rfl
      | true =>
          have run : replay lives [.acquire fresh, .touch fresh] =
              some (Function.update lives fresh .live) := by
            simp [replay, Use.apply, unused]
          refine run.trans (congrArg some (funext fun string => ?_))
          grind [setLives, Function.update_apply]
  | some string =>
      have stage := live string rfl
      have other : fresh ≠ string := by
        rintro rfl
        cases stage.symm.trans unused
      cases strdup with
      | false =>
          have run : replay lives [.release string] =
              some (Function.update lives string .released) := by
            simp [replay, Use.apply, stage]
          refine run.trans (congrArg some (funext fun string => ?_))
          grind [setLives, Function.update_apply]
      | true =>
          have run : replay lives [.release string, .acquire fresh, .touch fresh] =
              some (Function.update (Function.update lives string .released) fresh .live) := by
            simp [replay, Use.apply, stage, unused, other]
          refine run.trans (congrArg some (funext fun string => ?_))
          grind [setLives, Function.update_apply]

/-- Replacing a string leaves the life of every other one. -/
theorem setLives_other {lives : Nat → Life} {old copy : Option Nat} {string : Nat}
    (notCopy : copy ≠ some string) (notOld : old ≠ some string) :
    setLives lives old copy string = lives string := by
  rw [setLives, if_neg notCopy, if_neg notOld]

/-- The state after `camera_set_parameters`. -/
theorem setParameters_eq {strdup : Bool} {ret : Int} {device : WrapperCameraDevice}
    {wrapper next : Wrapper} {numCameras : Nat}
    (run : (Op.setParameters strdup ret (some device)).apply numCameras wrapper = some next) :
    let copy := if strdup then some wrapper.next else none
    (∀ id, next.stored id = if id = device.id then copy else wrapper.stored id) ∧
      next.devices = wrapper.devices ∧ next.next = wrapper.next + 1 ∧
      next.strings = wrapper.strings ++ (((wrapper.stored device.id).map Use.release).toList ++
        (copy.map Use.acquire).toList ++ (copy.map Use.touch).toList) := by
  intro copy
  cases array : wrapper.fixedSetParams with
  | none => simp [Op.apply, cameraSetParameters, cameraFixupSetparams, array] at run
  | some params =>
      simp only [Op.apply, cameraSetParameters, cameraFixupSetparams, array, Option.map_some,
        Option.some.injEq] at run
      subst run
      refine ⟨fun id => ?_, rfl, rfl, ?_⟩
      · simp only [Wrapper.stored, array, Function.update_apply, copy]
      · simp only [Wrapper.stored, array, List.append_assoc, copy]

/-- Setting the parameters of an open device keeps the invariant. -/
theorem setParameters_inv {numCameras : Nat} {wrapper next : Wrapper}
    (inv : Inv numCameras wrapper) {strdup : Bool} {ret : Int} {device : WrapperCameraDevice}
    (opened : device ∈ wrapper.devices)
    (run : (Op.setParameters strdup ret (some device)).apply numCameras wrapper = some next) :
    Inv numCameras next := by
  obtain ⟨stored, devices, serials, strings⟩ := setParameters_eq run
  obtain ⟨lives, replayed, entries⟩ := inv.entries
  have unused := entries.unused wrapper.next (Nat.le_refl _)
  have set := replay_set strdup (fun string => entries.live device opened string) unused
  dsimp only at stored set
  generalize same : (if strdup then some wrapper.next else none) = copy at stored set strings
  have fresh : ∀ string, copy = some string → string = wrapper.next := by
    rintro string rfl
    split at same
    · exact (Option.some.inj same).symm
    · cases same
  -- What the other entries of the array point to is as it was.
  have others : ∀ id string, id ≠ device.id → wrapper.stored id = some string →
      setLives lives (wrapper.stored device.id) copy string = lives string := by
    intro id string other present
    exact setLives_other (fun new => entries.ne_next present (fresh string new))
      (fun old => other (entries.apart id device.id string present old))
  constructor
  case ids =>
    rw [devices]
    exact inv.ids
  case counted =>
    rw [devices]
    exact inv.counted
  case inside =>
    intro id string present
    rw [stored] at present
    split at present
    next here =>
      rw [here]
      exact inv.counted device opened
    next => exact inv.inside id string present
  case entries =>
    have logged : replay (fun _ => .fresh) next.strings =
        some (setLives lives (wrapper.stored device.id) copy) := by
      rw [strings, replay_append, replayed, Option.bind_some]
      exact set
    refine ⟨_, logged, ?_⟩
    constructor
    case unused =>
      intro string above
      have stage := entries.unused string (by omega)
      rw [setLives_other, stage]
      · intro new
        have number := fresh string new
        omega
      · intro old
        exact entries.not_fresh old stage
    case live =>
      intro other member string present
      rw [devices] at member
      rw [stored] at present
      split at present
      next => exact if_pos present
      next apart =>
        rw [others other.id string apart present]
        exact entries.live other member string present
    case dangling =>
      intro id string present closed
      rw [devices] at closed
      have apart : id ≠ device.id := Ne.symm (closed device opened)
      rw [stored, if_neg apart] at present
      rw [others id string apart present]
      exact entries.dangling id string present closed
    case apart =>
      intro first second string one two
      rw [stored] at one two
      split at one
      next here =>
        split at two
        next there => rw [here, there]
        next => exact absurd (fresh string one) (entries.ne_next two)
      next =>
        split at two
        next => exact absurd (fresh string two) (entries.ne_next one)
        next => exact entries.apart first second string one two

/-! ## Closing -/

/-- The strings that a close frees. -/
def Wrapper.swept (numCameras : Nat) (wrapper : Wrapper) : List Nat :=
  (List.range numCameras).filterMap wrapper.stored

/-- What `close` frees is the string of each camera that has one. -/
theorem mem_swept {numCameras : Nat} {wrapper : Wrapper} {string : Nat} :
    string ∈ wrapper.swept numCameras ↔ ∃ id < numCameras, wrapper.stored id = some string := by
  simp [Wrapper.swept, List.mem_filterMap]

/-- The state after `camera_device_close`. -/
theorem deviceClose_eq {numCameras : Nat} {device : WrapperCameraDevice} {wrapper next : Wrapper}
    (run : (Op.deviceClose (some device)).apply numCameras wrapper = some next) :
    (∀ id, next.stored id = wrapper.stored id) ∧ next.devices = wrapper.devices.erase device ∧
      next.next = wrapper.next ∧
      next.strings = wrapper.strings ++ (wrapper.swept numCameras).map Use.release := by
  cases array : wrapper.fixedSetParams with
  | none => simp [Op.apply, cameraDeviceClose, array] at run
  | some params =>
      simp only [Op.apply, cameraDeviceClose, array, Option.map_some, Option.some.injEq] at run
      subst run
      have same : wrapper.stored = params := by
        funext id
        rw [Wrapper.stored, array]
      refine ⟨fun id => ?_, rfl, rfl, ?_⟩
      · rw [same, Wrapper.stored]
      · rw [Wrapper.swept, List.map_filterMap, same]

/-- The devices that remain after a `close` have other ids. -/
theorem Inv.mem_erase {numCameras : Nat} {wrapper : Wrapper} (inv : Inv numCameras wrapper)
    {device other : WrapperCameraDevice} (opened : device ∈ wrapper.devices)
    (remains : other ∈ wrapper.devices.erase device) :
    other ∈ wrapper.devices ∧ other.id ≠ device.id := by
  obtain ⟨apart, member⟩ := (List.Nodup.mem_erase_iff (List.Nodup.of_map _ inv.ids)).mp remains
  exact ⟨member, fun same => apart (List.inj_on_of_nodup_map inv.ids member opened same)⟩

/-- A guarded close frees the string of its own camera, if it has one. -/
theorem deviceClose_guarded {numCameras : Nat} {wrapper next : Wrapper}
    (inv : Inv numCameras wrapper) {device : WrapperCameraDevice}
    (opened : device ∈ wrapper.devices)
    (run : (Op.deviceClose (some device)).apply numCameras wrapper = some next)
    (guarded : ∀ id < numCameras, id ≠ device.id → wrapper.stored id = none) :
    Inv numCameras next := by
  obtain ⟨stored, devices, serials, strings⟩ := deviceClose_eq run
  obtain ⟨lives, replayed, entries⟩ := inv.entries
  have own : ∀ id string, wrapper.stored id = some string → id = device.id := by
    intro id string present
    by_contra other
    rw [guarded id (inv.inside id string present) other] at present
    cases present
  have distinct : (wrapper.swept numCameras).Nodup := by
    refine List.Nodup.filterMap ?_ List.nodup_range
    intro first second string one two
    exact entries.apart first second string one two
  have live : ∀ string ∈ wrapper.swept numCameras, lives string = .live := by
    intro string member
    obtain ⟨id, _, present⟩ := mem_swept.mp member
    rw [own id string present] at present
    exact entries.live device opened string present
  have logged := replay_release_iff.mpr ⟨distinct, live, rfl⟩
  constructor
  case ids =>
    rw [devices]
    exact inv.ids.sublist (List.erase_sublist.map _)
  case counted =>
    intro other remains
    rw [devices] at remains
    exact inv.counted other (inv.mem_erase opened remains).1
  case inside =>
    intro id string present
    rw [stored] at present
    exact inv.inside id string present
  case entries =>
    refine ⟨_, by rw [strings, replay_append, replayed, Option.bind_some]; exact logged, ?_⟩
    constructor
    case unused =>
      intro string above
      rw [serials] at above
      have stage := entries.unused string above
      have kept : string ∉ wrapper.swept numCameras := by
        intro member
        cases stage.symm.trans (live string member)
      rw [if_neg kept, stage]
    case live =>
      intro other remains string present
      rw [devices] at remains
      rw [stored] at present
      exact absurd (own other.id string present) (inv.mem_erase opened remains).2
    case dangling =>
      intro id string present _
      rw [stored] at present
      exact if_pos (mem_swept.mpr ⟨id, inv.inside id string present, present⟩)
    case apart =>
      intro first second string one two
      rw [stored] at one two
      exact entries.apart first second string one two

/-- A close is sound exactly if no other camera has an entry: the entry of an open camera
is taken from it, and that of a closed camera is freed for the second time. -/
theorem deviceClose_sound_iff {numCameras : Nat} {wrapper next : Wrapper}
    (inv : Inv numCameras wrapper) {device : WrapperCameraDevice}
    (opened : device ∈ wrapper.devices)
    (run : (Op.deviceClose (some device)).apply numCameras wrapper = some next) :
    Sound numCameras wrapper (.deviceClose (some device)) next ↔
      ∀ id < numCameras, id ≠ device.id → wrapper.stored id = none := by
  obtain ⟨stored, devices, serials, strings⟩ := deviceClose_eq run
  constructor
  · intro sound id inside other
    obtain ⟨lives, replayed, entries⟩ := inv.entries
    obtain ⟨final, logged⟩ := sound.live
    have swept := logged
    rw [strings, replay_append, replayed, Option.bind_some, replay_release_iff] at swept
    obtain ⟨_, live, same⟩ := swept
    rw [Option.eq_none_iff_forall_ne_some]
    intro string present
    have member := mem_swept.mpr ⟨id, inside, present⟩
    by_cases owned : ∃ owner ∈ wrapper.devices, owner.id = id
    · obtain ⟨owner, member', rfl⟩ := owned
      have remains : owner ∈ next.devices := by
        rw [devices]
        exact (List.mem_erase_of_ne fun same => other (by rw [same])).mpr member'
      obtain ⟨final', logged', kept⟩ := (sound.inPlace trivial owner remains).2 string present
      cases logged.symm.trans logged'
      rw [same] at kept
      exact absurd ((if_pos member).symm.trans kept) nofun
    · have closed : ∀ owner ∈ wrapper.devices, owner.id ≠ id := fun owner member same =>
        owned ⟨owner, member, same⟩
      cases (entries.dangling id string present closed).symm.trans (live string member)
  · intro guarded
    have kept := deviceClose_guarded inv opened run guarded
    refine ⟨kept.replays, fun _ owner remains => ⟨stored owner.id, fun string present => ?_⟩⟩
    rw [devices] at remains
    obtain ⟨member, other⟩ := inv.mem_erase opened remains
    rw [guarded owner.id (inv.counted owner member) other] at present
    cases present

/-! ## Whole sequences -/

/-- One call: it is sound exactly if it is guarded, and then the invariant goes on. -/
theorem apply_step {numCameras : Nat} {wrapper next : Wrapper} (inv : Inv numCameras wrapper)
    {op : Op} (allowed : op.Allowed wrapper) (run : op.apply numCameras wrapper = some next) :
    (Sound numCameras wrapper op next ↔ Guarded numCameras wrapper op next) ∧
      (Guarded numCameras wrapper op next → Inv numCameras next) := by
  cases op with
  | deviceOpen io name =>
      cases run
      obtain ⟨kept, sound⟩ := deviceOpen_step inv allowed
      exact ⟨sound, fun _ => kept⟩
  | setParameters strdup ret device =>
      cases device with
      | none =>
          cases run
          exact ⟨iff_of_true ⟨inv.replays, False.elim⟩ trivial, fun _ => inv⟩
      | some device =>
          have kept := setParameters_inv inv allowed run
          exact ⟨iff_of_true ⟨kept.replays, False.elim⟩ trivial, fun _ => kept⟩
  | deviceClose device =>
      cases device with
      | none =>
          cases run
          exact ⟨iff_of_true ⟨inv.replays, fun _ owner opened =>
            ⟨rfl, fun string => inv.isLive opened⟩⟩ trivial, fun _ => inv⟩
      | some device =>
          exact ⟨deviceClose_sound_iff inv allowed run, deviceClose_guarded inv allowed run⟩

/-- From a state with the invariant, every step is sound exactly when every step is guarded. -/
theorem allSteps_iff_of_inv {numCameras : Nat} {wrapper : Wrapper} (inv : Inv numCameras wrapper)
    (ops : List Op) : AllSteps numCameras (Sound numCameras) wrapper ops ↔
      AllSteps numCameras (Guarded numCameras) wrapper ops := by
  induction ops generalizing wrapper with
  | nil => exact Iff.rfl
  | cons op rest ih =>
      constructor
      · intro sound next allowed run
        obtain ⟨here, kept⟩ := apply_step inv allowed run
        obtain ⟨now, later⟩ := sound next allowed run
        have guarded := here.mp now
        exact ⟨guarded, (ih (kept guarded)).mp later⟩
      · intro guarded next allowed run
        obtain ⟨here, kept⟩ := apply_step inv allowed run
        obtain ⟨now, later⟩ := guarded next allowed run
        exact ⟨here.mpr now, (ih (kept now)).mpr later⟩

/-- For any number of cameras, the calls of a sequence are all sound exactly if all of
them are guarded. -/
theorem allSteps_iff (numCameras : Nat) (ops : List Op) :
    AllSteps numCameras (Sound numCameras) .initial ops ↔
      AllSteps numCameras (Guarded numCameras) .initial ops :=
  allSteps_iff_of_inv (initial_inv numCameras) ops

/-- The calls of an open that does not fail. -/
def OpenIo.reliable : OpenIo := ⟨true, true, true, 0, true⟩

/-- Of two open cameras the first gets parameters and is closed, then the second. -/
def twoCameras : List Op :=
  [.deviceOpen .reliable (some [ascii '0']), .deviceOpen .reliable (some [ascii '1']),
    .setParameters true 0 (some ⟨0, 0⟩), .deviceClose (some ⟨0, 0⟩), .deviceClose (some ⟨1, 1⟩)]

/-- The second close frees the parameters of the first camera again. -/
theorem twoCameras_freedTwice : ¬ AllSteps 2 (Sound 2) .initial twoCameras := by
  intro sound
  obtain ⟨_, sound⟩ := sound _ (by decide) rfl
  obtain ⟨_, sound⟩ := sound _ (by decide) rfl
  obtain ⟨_, sound⟩ := sound _ (by decide) rfl
  obtain ⟨_, sound⟩ := sound _ (by decide) rfl
  obtain ⟨⟨lives, logged⟩, _⟩ := (sound _ (by decide) rfl).1
  cases logged

end T00F.Camera
