import T00F.Libshims.CreateEventQueue

/-!
# The death of a server

What the manager holds between two deaths of its server. `Kept` is the invariant of its fields:
the list and the vector are in step, and only the death of the current server is ever told.
`run_answers` says what the calls return, `run_told` that no thread clears a live server, and
`unnoticed_iff` that a death stays unnoticed exactly if a server refused the observer.
-/

namespace T00F.Libshims

open Systems

universe u v

variable {Thread : Type u} {Server : Type v} [DecidableEq Thread] [DecidableEq Server]

namespace SensorManager

/-- The thread was told of the death of the server and has not cleared it yet. -/
def Told (manager : SensorManager Thread Server) (thread : Thread) : Prop :=
  manager.place thread = .dying ∨ manager.place thread = .clearing

/-- The invariant of the fields. -/
structure Kept (manager : SensorManager Thread Server) : Prop where
  owned : manager.Owned
  absent : manager.mSensorServer = none → manager.mSensorList = none ∧ manager.mSensors = []
  present : manager.mSensorServer ≠ none → manager.mSensorList = some manager.mSensors
  observed : ∀ server, manager.mDeathObserver = some server → manager.mSensorServer = some server
  alive : ∀ server, manager.mSensorServer = some server → manager.dead server = false →
    manager.mDeathObserver = some server
  told : ∀ thread, manager.Told thread → manager.mDeathObserver = none ∧
    ∃ server, manager.mSensorServer = some server ∧ manager.dead server = true
  once : ∀ thread other, manager.Told thread → manager.Told other → thread = other

omit [DecidableEq Server] in
/-- The server that accepts the observer is the one it is linked to. -/
theorem observed_of_linked {linked : Bool} {server own : Server}
    (observed : (if linked then some server else none) = some own) : some server = some own := by
  cases linked with
  | false => cases observed
  | true => exact observed

omit [DecidableEq Thread] [DecidableEq Server] in
/-- A constructed manager keeps its observer. -/
theorem Constructed.kept {manager : SensorManager Thread Server}
    (constructed : manager.Constructed) : manager.Kept where
  owned := constructed.owned
  absent none := by
    cases constructed with
    | failed => exact ⟨rfl, rfl⟩
    | fetched => cases none
  present some := by
    cases constructed with
    | failed => exact absurd rfl some
    | fetched => rfl
  observed server observed := by
    cases constructed with
    | failed => cases observed
    | fetched dead own sensors linked _ => exact observed_of_linked observed
  alive server some alive := by
    cases constructed with
    | failed => cases some
    | fetched dead own sensors linked links =>
        cases some
        exact if_pos (links alive)
  told thread told := by
    cases constructed with
    | failed | fetched => rcases told with dying | clearing <;> contradiction
  once thread _ told _ := by
    cases constructed with
    | failed | fetched => rcases told with dying | clearing <;> contradiction

variable {manager next : SensorManager Thread Server} {action : Action Thread Server}
  {thread : Thread}

omit [DecidableEq Server] in
/-- Whoever is told stays where it is while another thread moves. -/
theorem told_moved {place : Place Server} {other : Thread}
    (moved : next.place = Function.update manager.place thread place)
    (told : next.Told other) : (other ≠ thread ∧ manager.Told other) ∨
      (other = thread ∧ (place = .dying ∨ place = .clearing)) := by
  rw [Told, moved] at told
  by_cases same : other = thread
  · rw [same, Function.update_self] at told
    exact .inr ⟨same, told⟩
  · rw [Function.update_of_ne same] at told
    exact .inl ⟨same, told⟩

omit [DecidableEq Server] in
/-- A thread that moves and is not told of a death. -/
theorem Kept.moves {place : Place Server} (kept : manager.Kept) (owned : next.Owned)
    (moved : next.place = Function.update manager.place thread place)
    (untold : place ≠ .dying ∧ place ≠ .clearing)
    (server : next.mSensorServer = manager.mSensorServer)
    (list : next.mSensorList = manager.mSensorList) (sensors : next.mSensors = manager.mSensors)
    (observer : next.mDeathObserver = manager.mDeathObserver) (dead : next.dead = manager.dead) :
    next.Kept := by
  have before : ∀ other, next.Told other → manager.Told other := fun other told =>
    (told_moved moved told).elim And.right fun also => absurd also.2 (not_or.mpr untold)
  exact {
    owned := owned
    absent := by rw [server, list, sensors]; exact kept.absent
    present := by rw [server, list, sensors]; exact kept.present
    observed := by rw [server, observer]; exact kept.observed
    alive := by rw [server, observer, dead]; exact kept.alive
    told := by
      rw [server, observer, dead]
      exact fun other told => kept.told other (before other told)
    once := fun first second told also => kept.once first second (before _ told) (before _ also) }

omit [DecidableEq Thread] [DecidableEq Server] in
/-- What follows the check of the state is not a death notice. -/
theorem afterAssert_untold (manager : SensorManager Thread Server) (err : Int)
    (request : Request) : manager.afterAssert err request ≠ .dying ∧
      manager.afterAssert err request ≠ .clearing := by
  cases request with
  | getSensorList =>
      simp only [afterAssert]
      split
      · exact ⟨by rintro ⟨⟩, by rintro ⟨⟩⟩
      · exact ⟨by rintro ⟨⟩, by rintro ⟨⟩⟩
  | getDefaultSensor type => exact ⟨by rintro ⟨⟩, by rintro ⟨⟩⟩
  | createEventQueue =>
      simp only [afterAssert]
      split
      · exact ⟨by rintro ⟨⟩, by rintro ⟨⟩⟩
      · exact ⟨by rintro ⟨⟩, by rintro ⟨⟩⟩

omit [DecidableEq Thread] [DecidableEq Server] in
/-- Without a server, or with an observer, nobody was told of a death. -/
theorem Kept.untold (kept : manager.Kept)
    (none : manager.mSensorServer = none ∨ manager.mDeathObserver ≠ none) (other : Thread) :
    ¬ manager.Told other := by
  intro told
  obtain ⟨observer, server, some, -⟩ := kept.told other told
  rcases none with none | observed
  · rw [some] at none
    cases none
  · exact observed observer

/-- Every step of everybody keeps the invariant. -/
theorem Step.kept (step : Step manager action next) (kept : manager.Kept) : next.Kept := by
  have owned := step.owned kept.owned
  cases step with
  | call | lock | absent | notFound | connected | disconnected | unlock =>
      exact kept.moves owned rfl ⟨by rintro ⟨⟩, by rintro ⟨⟩⟩ rfl rfl rfl rfl rfl
  | present | failed =>
      exact kept.moves owned rfl (afterAssert_untold _ _ _) rfl rfl rfl rfl rfl
  | @binderDied thread last server at_place observed died =>
      have only : ∀ other, ({ manager.moved thread .dying with mDeathObserver := none } :
          SensorManager Thread Server).Told other → other = thread := by
        intro other told
        rcases told_moved rfl told with ⟨-, also⟩ | ⟨same, -⟩
        · exact absurd also (kept.untold (.inr (observed ▸ Option.some_ne_none server)) other)
        · exact same
      exact {
        owned := owned
        absent := kept.absent
        present := kept.present
        observed := fun _ observed => by cases observed
        alive := fun own some alive => by
          cases (kept.observed server observed).symm.trans some
          cases died.symm.trans alive
        told := fun other told => ⟨rfl, server, kept.observed server observed, died⟩
        once := fun first second told also => (only first told).trans (only second also).symm }
  | @lockDying thread free at_place =>
      have before : ∀ other, ({ manager.moved thread .clearing with mLock := some thread } :
          SensorManager Thread Server).Told other → manager.Told other := by
        intro other told
        rcases told_moved rfl told with ⟨-, also⟩ | ⟨same, -⟩
        · exact also
        · exact .inl (same ▸ at_place)
      exact {
        owned := owned
        absent := kept.absent
        present := kept.present
        observed := kept.observed
        alive := kept.alive
        told := fun other told => kept.told other (before other told)
        once := fun first second told also =>
          kept.once first second (before _ told) (before _ also) }
  | @found thread request attempt server sensors linked at_place links =>
      have without : manager.mSensorServer = none := kept.owned.fits_at at_place
      have nobody : ∀ other, ¬ ((manager.fetched server sensors linked).moved thread
          ((manager.fetched server sensors linked).afterAssert noError request)).Told other := by
        intro other told
        rcases told_moved (rfl : _ = Function.update manager.place thread _) told with
          ⟨-, also⟩ | ⟨-, also⟩
        · exact kept.untold (.inl without) other also
        · exact not_or.mpr (afterAssert_untold _ _ _) also
      exact {
        owned := owned
        absent := fun none => by cases none
        present := fun _ => rfl
        observed := fun own observed => observed_of_linked observed
        alive := fun own some alive => by
          cases some
          exact if_pos (links alive)
        told := fun other told => absurd told (nobody other)
        once := fun first _ told _ => absurd told (nobody first) }
  | @clear thread at_place =>
      have told : manager.Told thread := .inr at_place
      have nobody : ∀ other, ¬ (manager.cleared.moved thread (.leaving .died)).Told other := by
        intro other also
        rcases told_moved (rfl : _ = Function.update manager.place thread _) also with
          ⟨different, also⟩ | ⟨-, ⟨⟨⟩⟩ | ⟨⟨⟩⟩⟩
        exact different (kept.once other thread also told)
      exact {
        owned := owned
        absent := fun _ => ⟨rfl, rfl⟩
        present := fun some => absurd rfl some
        observed := fun server observed => by
          change manager.mDeathObserver = some server at observed
          rw [(kept.told thread told).1] at observed
          cases observed
        alive := fun _ some _ => by cases some
        told := fun other told => absurd told (nobody other)
        once := fun first _ told _ => absurd told (nobody first) }
  | die server =>
      exact {
        owned := owned
        absent := kept.absent
        present := kept.present
        observed := kept.observed
        alive := fun own present alive => by
          refine kept.alive own present ?_
          cases died : manager.dead own with
          | false => rfl
          | true =>
              rw [(Step.die server).dead died] at alive
              cases alive
        told := fun other told => by
          obtain ⟨observer, own, present, died⟩ := kept.told other told
          exact ⟨observer, own, present, (Step.die server).dead died⟩
        once := kept.once }
  | idle => exact kept

/-! ## Deaths that nobody is told -/

/-- The server is dead, and nobody is told of it or will be. -/
structure Unnoticed (manager : SensorManager Thread Server) : Prop where
  died : ∃ server, manager.mSensorServer = some server ∧ manager.dead server = true
  unobserved : manager.mDeathObserver = none
  untold : ∀ thread, ¬ manager.Told thread

/-- The step gets a server that refuses the observer. -/
def Refused (manager next : SensorManager Thread Server) : Prop :=
  manager.mSensorServer = none ∧ next.mSensorServer ≠ none ∧ next.mDeathObserver = none

omit [DecidableEq Thread] [DecidableEq Server] in
/-- A step that leaves the server is not a refused registration. -/
theorem not_refused (server : next.mSensorServer = manager.mSensorServer) :
    ¬ Refused manager next := by
  rintro ⟨without, present, -⟩
  exact present (server.trans without)

omit [DecidableEq Thread] [DecidableEq Server] in
/-- A fresh manager misses the death of its server exactly when it has no observer. -/
theorem Constructed.unnoticed (constructed : manager.Constructed) : manager.Unnoticed ↔
    manager.mSensorServer ≠ none ∧ manager.mDeathObserver = none := by
  constructor
  · rintro ⟨⟨server, present, -⟩, unobserved, -⟩
    exact ⟨present ▸ Option.some_ne_none server, unobserved⟩
  · rintro ⟨present, unobserved⟩
    cases constructed with
    | failed => exact absurd rfl present
    | fetched dead own sensors linked links =>
        refine ⟨⟨own, rfl, ?_⟩, unobserved, ?_⟩
        · by_contra alive
          rw [Bool.not_eq_true] at alive
          cases unobserved.symm.trans (if_pos (links alive))
        · rintro thread (⟨⟨⟩⟩ | ⟨⟨⟩⟩)

omit [DecidableEq Server] in
/-- A thread that moves and is not told of a death, before or afterwards. -/
theorem unnoticed_moves {place : Place Server}
    (moved : next.place = Function.update manager.place thread place)
    (untold : place ≠ .dying ∧ place ≠ .clearing) (before : ¬ manager.Told thread)
    (server : next.mSensorServer = manager.mSensorServer)
    (observer : next.mDeathObserver = manager.mDeathObserver) (dead : next.dead = manager.dead) :
    next.Unnoticed ↔ manager.Unnoticed ∨ Refused manager next := by
  rw [or_iff_left (not_refused server)]
  have told : ∀ other, next.Told other ↔ manager.Told other := by
    intro other
    constructor
    · intro told
      exact (told_moved moved told).elim And.right fun also => absurd also.2 (not_or.mpr untold)
    · intro told
      have different : other ≠ thread := by
        rintro rfl
        exact before told
      rw [Told, moved, Function.update_of_ne different]
      exact told
  constructor
  · rintro ⟨died, unobserved, nobody⟩
    rw [server, dead] at died
    exact ⟨died, observer.symm.trans unobserved,
      fun other also => nobody other ((told other).mpr also)⟩
  · rintro ⟨died, unobserved, nobody⟩
    refine ⟨?_, observer.trans unobserved, fun other also => nobody other ((told other).mp also)⟩
    rwa [server, dead]

omit [DecidableEq Thread] [DecidableEq Server] in
/-- A thread at any other place was not told. -/
theorem not_told {place : Place Server} (at_place : manager.place thread = place)
    (untold : place ≠ .dying ∧ place ≠ .clearing) : ¬ manager.Told thread := by
  rw [Told, at_place]
  exact not_or.mpr untold

/-- A death comes to be unnoticed only if a server refuses the observer, and stays so. -/
theorem Step.unnoticed (step : Step manager action next) (kept : manager.Kept) :
    next.Unnoticed ↔ manager.Unnoticed ∨ Refused manager next := by
  cases step with
  | call _ at_place | lock _ at_place | absent at_place _ | notFound at_place _
    | connected at_place _ _ | disconnected at_place _ _ | unlock at_place =>
      exact unnoticed_moves rfl ⟨by rintro ⟨⟩, by rintro ⟨⟩⟩
        (not_told at_place ⟨by rintro ⟨⟩, by rintro ⟨⟩⟩) rfl rfl rfl
  | present at_place _ | failed at_place _ =>
      exact unnoticed_moves rfl (afterAssert_untold _ _ _)
        (not_told at_place ⟨by rintro ⟨⟩, by rintro ⟨⟩⟩) rfl rfl rfl
  | binderDied at_place observed _ =>
      refine iff_of_false (fun unnoticed => unnoticed.untold _ (.inl (moved_place _ _ _))) ?_
      rintro (unnoticed | linked)
      · rw [unnoticed.unobserved] at observed
        cases observed
      · exact absurd linked (not_refused rfl)
  | lockDying _ at_place =>
      refine iff_of_false (fun unnoticed => unnoticed.untold _ (.inr (moved_place _ _ _))) ?_
      rintro (unnoticed | linked)
      · exact unnoticed.untold _ (.inl at_place)
      · exact absurd linked (not_refused rfl)
  | @found thread request attempt server sensors linked at_place links =>
      have without : manager.mSensorServer = none := kept.owned.fits_at at_place
      constructor
      · rintro ⟨-, unobserved, -⟩
        exact .inr ⟨without, Option.some_ne_none server, unobserved⟩
      · rintro (⟨⟨own, present, -⟩, -, -⟩ | ⟨-, -, unobserved⟩)
        · rw [without] at present
          cases present
        · refine ⟨⟨server, rfl, ?_⟩, unobserved, fun other told => ?_⟩
          · by_contra alive
            rw [Bool.not_eq_true] at alive
            cases unobserved.symm.trans (if_pos (links alive))
          · rcases told_moved (rfl : _ = Function.update manager.place thread _) told with
              ⟨-, also⟩ | ⟨-, also⟩
            · exact kept.untold (.inl without) other also
            · exact not_or.mpr (afterAssert_untold _ _ _) also
  | clear at_place =>
      refine iff_of_false (fun unnoticed => by obtain ⟨_, ⟨⟩, -⟩ := unnoticed.died) ?_
      rintro (unnoticed | ⟨-, present, -⟩)
      · exact unnoticed.untold _ (.inr at_place)
      · exact present rfl
  | die server =>
      refine Iff.trans ?_ (or_iff_left (not_refused rfl)).symm
      constructor
      · rintro ⟨⟨own, present, -⟩, unobserved, untold⟩
        refine ⟨⟨own, present, ?_⟩, unobserved, untold⟩
        by_contra alive
        rw [Bool.not_eq_true] at alive
        cases unobserved.symm.trans (kept.alive own present alive)
      · rintro ⟨⟨own, present, died⟩, unobserved, untold⟩
        exact ⟨⟨own, present, (Step.die server).dead died⟩, unobserved, untold⟩
  | idle => exact (or_iff_left (not_refused rfl)).symm

/-! ## What the calls return -/

/-- The answer to a call, from the server and the sensors at that time. -/
def Answers (mSensorServer : Option Server) (mSensors : List Sensor) :
    Request → Result Server → Prop
  | .getSensorList, .sensorList returned =>
      (mSensorServer ≠ none ∧ returned = .ok (mSensors.length, some mSensors)) ∨
        (mSensorServer = none ∧ returned = .error nameNotFound)
  | .getDefaultSensor type, .defaultSensor found =>
      found = mSensors.find? fun sensor =>
        sensor.type = type ∧ sensor.wakeUp = decide (type ∈ wakeUpTypes)
  | .createEventQueue, .eventQueue none => mSensorServer = none
  | _, _ => False

omit [DecidableEq Thread] [DecidableEq Server] in
/-- The search goes through the whole vector. -/
theorem defaultSensor_eq (list : manager.mSensorList = some manager.mSensors) (type : Int) :
    manager.defaultSensor type = manager.mSensors.find? fun sensor =>
      sensor.type = type ∧ sensor.wakeUp = decide (type ∈ wakeUpTypes) := by
  rw [defaultSensor, list, Option.getD_some, List.take_length]

omit [DecidableEq Thread] [DecidableEq Server] in
/-- What a call returns if `assertStateLocked` has found a server. -/
theorem afterAssert_present {request : Request} {result : Result Server}
    (present : manager.mSensorServer ≠ none)
    (list : manager.mSensorList = some manager.mSensors)
    (leaves : manager.afterAssert noError request = .leaving result) :
    Answers manager.mSensorServer manager.mSensors request result := by
  cases request with
  | getSensorList =>
      rw [afterAssert, if_neg (by decide), list] at leaves
      cases leaves
      exact .inl ⟨present, rfl⟩
  | getDefaultSensor type =>
      rw [afterAssert, if_pos rfl] at leaves
      cases leaves
      exact defaultSensor_eq list type
  | createEventQueue => cases leaves

omit [DecidableEq Thread] [DecidableEq Server] in
/-- What it returns without a server. -/
theorem afterAssert_absent {request : Request} {result : Result Server}
    (without : manager.mSensorServer = none) (sensors : manager.mSensors = [])
    (leaves : manager.afterAssert nameNotFound request = .leaving result) :
    Answers manager.mSensorServer manager.mSensors request result := by
  cases request with
  | getSensorList =>
      rw [afterAssert, if_pos (by decide)] at leaves
      cases leaves
      exact .inr ⟨without, rfl⟩
  | getDefaultSensor type =>
      rw [afterAssert, if_neg (by decide)] at leaves
      cases leaves
      rw [sensors]
      exact rfl
  | createEventQueue =>
      rw [afterAssert, if_neg (by decide)] at leaves
      cases leaves
      exact without

/-- A call that leaves `assertStateLocked` with a result answers from the fields. -/
theorem Step.answers (step : Step manager (.advance thread) next) (kept : manager.Kept)
    {request : Request} (asserts : (manager.place thread).asserts = some request)
    {result : Result Server} (leaves : next.place thread = .leaving result) :
    Answers next.mSensorServer next.mSensors request result := by
  cases step with
  | present at_place server =>
      rw [at_place] at asserts
      cases asserts
      rw [moved_place] at leaves
      have present : manager.mSensorServer ≠ none := server ▸ Option.some_ne_none _
      exact afterAssert_present present (kept.present present) leaves
  | found server sensors linked at_place _ =>
      rw [at_place] at asserts
      cases asserts
      rw [moved_place] at leaves
      exact afterAssert_present (Option.some_ne_none server) rfl leaves
  | failed at_place _ =>
      have without := kept.owned.fits_at at_place
      rw [at_place] at asserts
      cases asserts
      rw [moved_place] at leaves
      exact afterAssert_absent without (kept.absent without).2 leaves
  | absent at_place _ | notFound at_place _ =>
      rw [moved_place] at leaves
      cases leaves
  | connected at_place _ _ | disconnected at_place _ _ | clear at_place | unlock at_place =>
      rw [at_place] at asserts
      cases asserts

/-! ## Runs -/

/-- An infinite run from what the constructor leaves, with any scheduler. -/
structure Run (states : Nat → SensorManager Thread Server)
    (actions : Nat → Action Thread Server) : Prop where
  constructed : (states 0).Constructed
  step : ∀ time, Step (states time) (actions time) (states (time + 1))

variable {states : Nat → SensorManager Thread Server} {actions : Nat → Action Thread Server}

/-- Every state of a run keeps its observer. -/
theorem Run.kept (run : Run states actions) (time : Nat) : (states time).Kept := by
  induction time with
  | zero => exact run.constructed.kept
  | succ time ih => exact (run.step time).kept ih

/-- The sensors of the server of the next run. -/
def listedSensors : List Sensor := [⟨1, false⟩, ⟨8, false⟩, ⟨8, true⟩]

/-- The server dies before anybody has used the manager; the first call still gets it, and it
refuses the observer. -/
def lingering : Nat → SensorManager Bool Unit
  | 0 => blank fun _ => true
  | 1 => (lingering 0).moved false (.waiting (.getDefaultSensor 8))
  | 2 => { (lingering 1).moved false (.asserting (.getDefaultSensor 8)) with mLock := some false }
  | 3 => (lingering 2).moved false (.getting (.getDefaultSensor 8) 0)
  | 4 => ((lingering 3).fetched () listedSensors false).moved false
      (((lingering 3).fetched () listedSensors false).afterAssert noError (.getDefaultSensor 8))
  | time + 5 => lingering (time + 4)

def lingeringActions : Nat → Action Bool Unit
  | 0 => .call false (.getDefaultSensor 8)
  | 1 => .lock false
  | 2 | 3 => .advance false
  | _ => .idle

theorem lingering_run : Run lingering lingeringActions where
  constructed := .failed _
  step time := by
    rcases time with _ | _ | _ | _ | time
    · exact .call _ rfl
    · exact .lock rfl rfl
    · exact .absent rfl rfl
    · exact .found () listedSensors false rfl fun alive => by cases alive
    · exact .idle

/-- In every run a call that gets out of `assertStateLocked` answers with the vector of sensors that
the manager has at that time, or with nothing if there is no server. -/
theorem run_answers (run : Run states actions) {time : Nat} {request : Request}
    {result : Result Server} (asserts : ((states time).place thread).asserts = some request)
    (leaves : (states (time + 1)).place thread = .leaving result) :
    Answers (states (time + 1)).mSensorServer (states (time + 1)).mSensors request result := by
  have step := run.step time
  by_cases acts : actions time = .advance thread
  · rw [acts] at step
    exact step.answers (run.kept time) asserts leaves
  · have owned := (run.kept time).owned
    have held := (owned.holds thread).mp (Place.inside_of_asserts asserts)
    obtain ⟨-, stays, -⟩ := step.other owned held acts
    rw [← stays, leaves] at asserts
    cases asserts

theorem run_answers_lingering : Answers (some ()) listedSensors (.getDefaultSensor 8)
    (.defaultSensor (some ⟨8, true⟩)) :=
  @run_answers _ _ _ _ false _ _ lingering_run 3 _ _ rfl rfl

/-- In every run, only a thread that was told of it stands between the death of the current server
and its being cleared: no live server is ever cleared, and no two threads are told at once. -/
theorem run_told (run : Run states actions) {time : Nat} (told : (states time).Told thread) :
    (∃ server, (states time).mSensorServer = some server ∧ (states time).dead server = true) ∧
      ∀ other, (states time).Told other → other = thread :=
  ⟨((run.kept time).told thread told).2,
    fun other also => (run.kept time).once other thread also told⟩

theorem run_told_recovering :
    (∃ server, (recovering 8).mSensorServer = some server ∧ (recovering 8).dead server = true) ∧
      ∀ other, (recovering 8).Told other → other = true :=
  run_told ⟨recovering_fair.constructed, recovering_fair.step⟩ (.inl rfl)

/-- A run has a death that nobody is told of, now or ever, exactly if a server refused the observer,
which the manager does not notice. -/
theorem unnoticed_iff (run : Run states actions) (time : Nat) :
    (states time).Unnoticed ↔
      ((states 0).mSensorServer ≠ none ∧ (states 0).mDeathObserver = none) ∨
        ∃ earlier < time, Refused (states earlier) (states (earlier + 1)) := by
  induction time with
  | zero =>
      rw [or_iff_left (by rintro ⟨earlier, impossible, -⟩; omega)]
      exact run.constructed.unnoticed
  | succ time ih =>
      rw [(run.step time).unnoticed (run.kept time), ih, Nat.exists_lt_succ_right, or_assoc]

theorem unnoticed_iff_lingering : (lingering 9).Unnoticed :=
  (unnoticed_iff lingering_run _).mpr (.inr ⟨3, by omega, rfl, Option.some_ne_none (), rfl⟩)

end SensorManager

end T00F.Libshims
