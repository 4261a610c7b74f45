import T00F.Systems.Transition

/-!
# The sensor manager

`SensorManager`, used by any number of threads: its fields, the server they refer to, and
where each thread is in the call that it makes. A thread is `Inside` while it holds
`mLock`, from taking it until its `Autolock` gives it back. `Step.other` says that nobody
else then touches what the thread relies on, `Step.advance` what the thread itself does,
and `Step.owned` that the lock does its work. What `linkToDeath` does is up to the
environment, except that a living server accepts the observer. A run starts from what the
constructor leaves if no death is delivered to it, see `T00F.Libshims.Construction`.
-/

namespace T00F.Libshims

open Systems

universe u v

/-- `NO_ERROR` -/
def noError : Int := 0

/-- `NAME_NOT_FOUND`, which is `-ENOENT`. -/
def nameNotFound : Int := -2

/-- A `Sensor`, as far as the manager looks at it. -/
structure Sensor where
  type : Int
  wakeUp : Bool
deriving DecidableEq, Repr

/-- The calls of the manager's users. -/
inductive Request where
  | getSensorList
  | getDefaultSensor (type : Int)
  | createEventQueue
deriving DecidableEq, Repr

/-- What a call returns: the list with its length or an error, a sensor or `NULL`, a queue on
the connection of a server or `NULL`. -/
inductive Result (Server : Type v) where
  | sensorList (returned : Except Int (Nat × Option (List Sensor)))
  | defaultSensor (found : Option Sensor)
  | eventQueue (connection : Option Server)
  | died

/-- Where a thread is. -/
inductive Place (Server : Type v) where
  | outside (last : Option (Result Server))
  | waiting (request : Request)
  | dying
  | asserting (request : Request)
  | getting (request : Request) (attempt : Nat)
  | connecting
  | clearing
  | leaving (result : Result Server)

namespace Place

variable {Server : Type v}

/-- The thread waits for the lock. -/
def Waits : Place Server → Prop
  | waiting _ | dying => True
  | _ => False

/-- The thread is between taking the lock and giving it back. -/
def Inside : Place Server → Prop
  | asserting _ | getting _ _ | connecting | clearing | leaving _ => True
  | _ => False

/-- The thread is in `createEventQueue`. -/
def Creates : Place Server → Prop
  | waiting request | asserting request | getting request _ => request = .createEventQueue
  | connecting | leaving (.eventQueue _) => True
  | _ => False

/-- The request for which the thread is in `assertStateLocked`. -/
def asserts : Place Server → Option Request
  | asserting request | getting request _ => some request
  | _ => none

/-- A thread that checks the state is inside the lock. -/
theorem inside_of_asserts {place : Place Server} {request : Request}
    (asserts : place.asserts = some request) : place.Inside := by
  cases place with
  | asserting | getting => trivial
  | outside | waiting | dying | connecting | clearing | leaving => cases asserts

/-- The thread is in the loop of `createEventQueue`, before or behind `assertStateLocked`. -/
def Loops : Place Server → Prop
  | asserting request => request = .createEventQueue
  | connecting => True
  | _ => False

/-- A thread finds a server where it uses one, and none where it asks for one. -/
def Fits (mSensorServer : Option Server) : Place Server → Prop
  | connecting => mSensorServer ≠ none
  | getting _ _ => mSensorServer = none
  | _ => True

/-- A thread outside of the lock assumes nothing of the server. -/
theorem fits_of_not_inside {place : Place Server} (apart : ¬ place.Inside)
    (mSensorServer : Option Server) : place.Fits mSensorServer := by
  cases place with
  | getting | connecting => exact absurd trivial apart
  | outside | waiting | dying | asserting | clearing | leaving => trivial

/-- A thread in the retry loop is inside the lock. -/
theorem Loops.inside {place : Place Server} (loops : place.Loops) : place.Inside := by
  cases place with
  | asserting | connecting => trivial
  | outside | waiting | dying | getting | clearing | leaving => exact loops.elim

/-- A thread in the retry loop is creating a queue. -/
theorem Loops.creates {place : Place Server} (loops : place.Loops) : place.Creates := by
  cases place with
  | asserting request => exact loops
  | connecting => trivial
  | outside | waiting | dying | getting | clearing | leaving => exact loops.elim

/-- A thread in `createEventQueue` waits for the lock or has it. -/
theorem Creates.waits_or_inside {place : Place Server} (creates : place.Creates) :
    place.Waits ∨ place.Inside := by
  cases place with
  | waiting request => exact .inl trivial
  | asserting | getting | connecting | leaving => exact .inr trivial
  | outside | dying | clearing => exact creates.elim

/-- How many steps a thread takes at most until it gives the lock back, if no connection
fails. -/
def remaining : Place Server → Nat
  | asserting _ => 8
  | getting _ attempt => 3 + (4 - attempt)
  | connecting | clearing => 2
  | leaving _ => 1
  | _ => 0

end Place

/-- The manager, the servers that have died, and its threads. `mDeathObserver` is the server
whose death it has still to be told. -/
structure SensorManager (Thread : Type u) (Server : Type v) where
  mLock : Option Thread
  mSensorServer : Option Server
  mSensorList : Option (List Sensor)
  mSensors : List Sensor
  mDeathObserver : Option Server
  dead : Server → Bool
  place : Thread → Place Server

namespace SensorManager

variable {Thread : Type u} {Server : Type v}

/-- The types of which the default sensor is a wake-up sensor: proximity, significant motion,
tilt detector, wake, glance and pick-up gesture. -/
def wakeUpTypes : List Int := [8, 17, 22, 23, 24, 25]

/-- The search of `getDefaultSensor`, through as many pointers as there are sensors. -/
def defaultSensor (manager : SensorManager Thread Server) (type : Int) : Option Sensor :=
  ((manager.mSensorList.getD []).take manager.mSensors.length).find? fun sensor =>
    sensor.type = type ∧ sensor.wakeUp = decide (type ∈ wakeUpTypes)

/-- Where a call goes on when `assertStateLocked` returns. -/
def afterAssert (manager : SensorManager Thread Server) (err : Int) : Request → Place Server
  | .getSensorList =>
      if err < 0 then .leaving (.sensorList (.error err))
      else .leaving (.sensorList (.ok (manager.mSensors.length, manager.mSensorList)))
  | .getDefaultSensor type =>
      .leaving (.defaultSensor (if err = noError then manager.defaultSensor type else none))
  | .createEventQueue =>
      if err = noError then .connecting else .leaving (.eventQueue none)

/-- What `linkToDeath` may do: a server that is alive accepts the observer, one that has died
accepts it, so that the death is still told, or refuses it. -/
def Links (manager : SensorManager Thread Server) (server : Server) (linked : Bool) : Prop :=
  manager.dead server = false → linked = true

/-- The rest of `assertStateLocked` once a server has been found; `linked` if it accepts the
observer, which nobody checks. -/
def fetched (manager : SensorManager Thread Server) (server : Server) (sensors : List Sensor)
    (linked : Bool) : SensorManager Thread Server :=
  { manager with
    mSensorServer := some server
    mSensorList := some sensors
    mSensors := sensors
    mDeathObserver := if linked then some server else none }

/-- The body of `sensorManagerDied`. -/
def cleared (manager : SensorManager Thread Server) : SensorManager Thread Server :=
  { manager with mSensorServer := none, mSensorList := none, mSensors := [] }

/-- The fields before the constructor's `assertStateLocked`. -/
def blank (dead : Server → Bool) : SensorManager Thread Server where
  mLock := none
  mSensorServer := none
  mSensorList := none
  mSensors := []
  mDeathObserver := none
  dead := dead
  place := fun _ => .outside none

/-- The constructor has fetched a server, or has given up. The server may have died since. -/
inductive Constructed : SensorManager Thread Server → Prop where
  | failed (dead : Server → Bool) : Constructed (blank dead)
  | fetched (dead : Server → Bool) (server : Server) (sensors : List Sensor) (linked : Bool)
      (links : (blank dead : SensorManager Thread Server).Links server linked) :
      Constructed ((blank dead).fetched server sensors linked)

section Invariant

variable {manager : SensorManager Thread Server} {thread : Thread}

/-- The lock is held by the only thread inside. -/
structure Owned (manager : SensorManager Thread Server) : Prop where
  holds : ∀ thread, (manager.place thread).Inside ↔ manager.mLock = some thread
  fits : ∀ thread, (manager.place thread).Fits manager.mSensorServer

/-- A constructed manager's lock is owned by nobody. -/
theorem Constructed.owned (constructed : manager.Constructed) : manager.Owned := by
  cases constructed with
  | failed dead => exact ⟨fun _ => iff_of_false id (Option.some_ne_none _).symm, fun _ => trivial⟩
  | fetched dead server sensors linked _ =>
      exact ⟨fun _ => iff_of_false id (Option.some_ne_none _).symm, fun _ => trivial⟩

/-- Nobody else is inside together with the holder of the lock. -/
theorem Owned.others (owned : manager.Owned) (inside : (manager.place thread).Inside) :
    ∀ other ≠ thread, ¬ (manager.place other).Inside := by
  intro other different also
  have held := (owned.holds thread).mp inside
  rw [(owned.holds other).mp also] at held
  exact different (Option.some.inj held)

/-- With the lock free no thread is inside. -/
theorem Owned.nobody (owned : manager.Owned) (free : manager.mLock = none) (other : Thread) :
    ¬ (manager.place other).Inside := by
  rw [owned.holds, free]
  exact (Option.some_ne_none other).symm

/-- Behind `assertStateLocked` a thread is inside and has at most two more steps to take. -/
theorem afterAssert_place (manager : SensorManager Thread Server) (err : Int)
    (request : Request) : (manager.afterAssert err request).Inside ∧
      (manager.afterAssert err request).remaining ≤ 2 := by
  cases request with
  | getSensorList =>
      simp only [afterAssert]
      split
      · exact ⟨trivial, Nat.le_succ 1⟩
      · exact ⟨trivial, Nat.le_succ 1⟩
  | getDefaultSensor type => exact ⟨trivial, Nat.le_succ 1⟩
  | createEventQueue =>
      simp only [afterAssert]
      split
      · exact ⟨trivial, le_rfl⟩
      · exact ⟨trivial, Nat.le_succ 1⟩

/-- Where `assertStateLocked` succeeds there is a server. -/
theorem afterAssert_fits (manager : SensorManager Thread Server) {err : Int}
    (success : err = noError → manager.mSensorServer ≠ none) (request : Request) :
    (manager.afterAssert err request).Fits manager.mSensorServer := by
  cases request with
  | getSensorList =>
      simp only [afterAssert]
      split
      · trivial
      · trivial
  | getDefaultSensor type => trivial
  | createEventQueue =>
      simp only [afterAssert]
      split
      next ok => exact success ok
      next => trivial

/-- What a thread assumes of the server holds. -/
theorem Owned.fits_at (owned : manager.Owned) {place : Place Server}
    (at_place : manager.place thread = place) : place.Fits manager.mSensorServer :=
  at_place ▸ owned.fits thread

/-- A thread inside holds the lock. -/
theorem Owned.held_at (owned : manager.Owned) {place : Place Server}
    (at_place : manager.place thread = place) (inside : place.Inside) :
    manager.mLock = some thread :=
  (owned.holds thread).mp (at_place ▸ inside)

end Invariant

end SensorManager

/-- Who takes a step: a thread that makes a call, is told of the death of the server, gets the
lock or goes on with it, or a server that dies. -/
inductive Action (Thread : Type u) (Server : Type v) where
  | call (thread : Thread) (request : Request)
  | binderDied (thread : Thread)
  | lock (thread : Thread)
  | advance (thread : Thread)
  | die (server : Server)
  | idle

namespace SensorManager

variable {Thread : Type u} {Server : Type v} [DecidableEq Thread]

def moved (manager : SensorManager Thread Server) (thread : Thread) (place : Place Server) :
    SensorManager Thread Server :=
  { manager with place := Function.update manager.place thread place }

/-- A moved thread is at its new place. -/
@[simp] theorem moved_place (manager : SensorManager Thread Server) (thread : Thread)
    (place : Place Server) : (manager.moved thread place).place thread = place := by
  unfold moved
  exact Function.update_self _ _ _

@[simp] theorem moved_afterAssert (manager : SensorManager Thread Server) (thread : Thread)
    (place : Place Server) (err : Int) (request : Request) :
    (manager.moved thread place).afterAssert err request = manager.afterAssert err request := rfl

variable [DecidableEq Server]

/-- A server that has died returns no connection, one that has not does. -/
inductive Step : SensorManager Thread Server → Action Thread Server →
    SensorManager Thread Server → Prop where
  | call {manager thread last} (request : Request) :
      manager.place thread = .outside last →
      Step manager (.call thread request) (manager.moved thread (.waiting request))
  | binderDied {manager thread last server} :
      manager.place thread = .outside last → manager.mDeathObserver = some server →
      manager.dead server = true →
      Step manager (.binderDied thread) { manager.moved thread .dying with mDeathObserver := none }
  | lock {manager thread request} :
      manager.mLock = none → manager.place thread = .waiting request →
      Step manager (.lock thread)
        { manager.moved thread (.asserting request) with mLock := some thread }
  | lockDying {manager thread} :
      manager.mLock = none → manager.place thread = .dying →
      Step manager (.lock thread) { manager.moved thread .clearing with mLock := some thread }
  | present {manager thread request server} :
      manager.place thread = .asserting request → manager.mSensorServer = some server →
      Step manager (.advance thread)
        (manager.moved thread (manager.afterAssert noError request))
  | absent {manager thread request} :
      manager.place thread = .asserting request → manager.mSensorServer = none →
      Step manager (.advance thread) (manager.moved thread (.getting request 0))
  | found {manager thread request attempt} (server : Server) (sensors : List Sensor)
      (linked : Bool) :
      manager.place thread = .getting request attempt → manager.Links server linked →
      Step manager (.advance thread) ((manager.fetched server sensors linked).moved thread
        ((manager.fetched server sensors linked).afterAssert noError request))
  | notFound {manager thread request attempt} :
      manager.place thread = .getting request attempt → attempt + 1 < 4 →
      Step manager (.advance thread) (manager.moved thread (.getting request (attempt + 1)))
  | failed {manager thread request attempt} :
      manager.place thread = .getting request attempt → ¬ attempt + 1 < 4 →
      Step manager (.advance thread)
        (manager.moved thread (manager.afterAssert nameNotFound request))
  | connected {manager thread server} :
      manager.place thread = .connecting → manager.mSensorServer = some server →
      manager.dead server = false →
      Step manager (.advance thread)
        (manager.moved thread (.leaving (.eventQueue (some server))))
  | disconnected {manager thread server} :
      manager.place thread = .connecting → manager.mSensorServer = some server →
      manager.dead server = true →
      Step manager (.advance thread) (manager.moved thread (.asserting .createEventQueue))
  | clear {manager thread} :
      manager.place thread = .clearing →
      Step manager (.advance thread) (manager.cleared.moved thread (.leaving .died))
  | unlock {manager thread result} :
      manager.place thread = .leaving result →
      Step manager (.advance thread)
        { manager.moved thread (.outside (some result)) with mLock := none }
  | die {manager} (server : Server) :
      Step manager (.die server)
        { manager with dead := Function.update manager.dead server true }
  | idle {manager} : Step manager .idle manager

variable {manager next : SensorManager Thread Server} {action : Action Thread Server}
  {thread : Thread}

section Moved

variable {place : Place Server}

omit [DecidableEq Server]

/-- A step of a thread outside of the lock. -/
theorem Owned.apart (owned : manager.Owned) (before : ¬ (manager.place thread).Inside)
    (after : ¬ place.Inside) (lock : next.mLock = manager.mLock)
    (server : next.mSensorServer = manager.mSensorServer)
    (moved : next.place = Function.update manager.place thread place) : next.Owned := by
  constructor
  · intro other
    rw [moved, lock, ← owned.holds other]
    by_cases same : other = thread
    · subst same
      rw [Function.update_self]
      exact iff_of_false after before
    · rw [Function.update_of_ne same]
  · intro other
    rw [moved, server]
    by_cases same : other = thread
    · subst same
      rw [Function.update_self]
      exact Place.fits_of_not_inside after _
    · rw [Function.update_of_ne same]
      exact owned.fits other

/-- A step of the only thread inside. -/
theorem Owned.alone (others : ∀ other ≠ thread, ¬ (manager.place other).Inside)
    (moved : next.place = Function.update manager.place thread place)
    (fits : place.Fits next.mSensorServer) (inside : place.Inside → next.mLock = some thread)
    (outside : ¬ place.Inside → next.mLock = none) : next.Owned := by
  constructor
  · intro other
    rw [moved]
    by_cases same : other = thread
    · subst same
      rw [Function.update_self]
      refine ⟨inside, fun lock => ?_⟩
      by_contra apart
      rw [outside apart] at lock
      cases lock
    · rw [Function.update_of_ne same]
      refine iff_of_false (others other same) fun lock => ?_
      by_cases here : place.Inside
      · rw [inside here] at lock
        exact same (Option.some.inj lock).symm
      · rw [outside here] at lock
        cases lock
  · intro other
    rw [moved]
    by_cases same : other = thread
    · subst same
      rwa [Function.update_self]
    · rw [Function.update_of_ne same]
      exact Place.fits_of_not_inside (others other same) _

/-- A step with which the thread inside stays there. -/
theorem Owned.stays (owned : manager.Owned) (before : (manager.place thread).Inside)
    (lock : next.mLock = manager.mLock)
    (moved : next.place = Function.update manager.place thread place) (after : place.Inside)
    (fits : place.Fits next.mSensorServer) : next.Owned :=
  .alone (owned.others before) moved fits
    (fun _ => lock.trans ((owned.holds thread).mp before)) (absurd after)

end Moved

/-- The lock does its work. -/
theorem Step.owned (step : Step manager action next) (owned : manager.Owned) : next.Owned := by
  cases step with
  | call request at_place | binderDied at_place _ _ =>
      exact owned.apart (by rw [at_place]; exact id) id rfl rfl rfl
  | lock free at_place | lockDying free at_place =>
      exact .alone (fun other _ => owned.nobody free other) rfl trivial (fun _ => rfl)
        (absurd trivial)
  | present at_place server =>
      refine owned.stays (by rw [at_place]; trivial) rfl rfl (afterAssert_place _ _ _).1 ?_
      exact afterAssert_fits _ (fun _ => server ▸ Option.some_ne_none _) _
  | absent at_place none => exact owned.stays (by rw [at_place]; trivial) rfl rfl trivial none
  | found server sensors linked at_place _ =>
      refine owned.stays (by rw [at_place]; trivial) rfl rfl (afterAssert_place _ _ _).1 ?_
      exact afterAssert_fits _ (fun _ => Option.some_ne_none _) _
  | notFound at_place _ =>
      have fits := owned.fits_at at_place
      exact owned.stays (by rw [at_place]; trivial) rfl rfl trivial fits
  | failed at_place _ =>
      refine owned.stays (by rw [at_place]; trivial) rfl rfl (afterAssert_place _ _ _).1 ?_
      exact afterAssert_fits _ (absurd · (by decide)) _
  | connected at_place _ _ | disconnected at_place _ _ | clear at_place =>
      exact owned.stays (by rw [at_place]; trivial) rfl rfl trivial trivial
  | unlock at_place =>
      exact .alone (owned.others (by rw [at_place]; trivial)) rfl trivial False.elim fun _ => rfl
  | die server => exact ⟨owned.holds, owned.fits⟩
  | idle => exact owned

/-- Only the holder of the lock goes on. -/
theorem Step.held (step : Step manager (.advance thread) next) (owned : manager.Owned) :
    manager.mLock = some thread := by
  cases step with
  | present at_place _ | absent at_place _ | found _ _ _ at_place _ | notFound at_place _
    | failed at_place _ | connected at_place _ _ | disconnected at_place _ _ | clear at_place
    | unlock at_place => exact owned.held_at at_place trivial

/-- While a thread holds the lock, steps of others change neither its place nor the server. -/
theorem Step.other (step : Step manager action next) (owned : manager.Owned)
    (held : manager.mLock = some thread) (other : action ≠ .advance thread) :
    next.mLock = some thread ∧ next.place thread = manager.place thread ∧
      next.mSensorServer = manager.mSensorServer := by
  have inside := (owned.holds thread).mpr held
  -- Whoever is outside of the lock is somebody else.
  have kept : ∀ {mover : Thread} {before after : Place Server},
      manager.place mover = before → ¬ before.Inside →
      Function.update manager.place mover after thread = manager.place thread := by
    intro mover before after at_place apart
    refine Function.update_of_ne ?_ _ _
    rintro rfl
    exact apart (at_place ▸ inside)
  cases action with
  | advance mover =>
      have also := step.held owned
      rw [held] at also
      exact absurd (congrArg _ (Option.some.inj also).symm) other
  | call mover request =>
      cases step with
      | call _ at_place => exact ⟨held, kept at_place id, rfl⟩
  | binderDied mover =>
      cases step with
      | binderDied at_place _ _ => exact ⟨held, kept at_place id, rfl⟩
  | lock mover =>
      cases step with
      | lock free _ | lockDying free _ =>
          rw [free] at held
          cases held
  | die server =>
      cases step with
      | die => exact ⟨held, rfl, rfl⟩
  | idle =>
      cases step with
      | idle => exact ⟨held, rfl, rfl⟩

/-- A thread that waits is only moved by getting the lock. -/
theorem Step.waits (step : Step manager action next) (waits : (manager.place thread).Waits)
    (other : action ≠ .lock thread) : next.place thread = manager.place thread := by
  have kept : ∀ {mover : Thread} {before after : Place Server}, manager.place mover = before →
      ¬ before.Waits → Function.update manager.place mover after thread = manager.place thread := by
    intro mover before after at_place apart
    refine Function.update_of_ne ?_ _ _
    rintro rfl
    exact apart (at_place ▸ waits)
  cases step with
  | call _ at_place | binderDied at_place _ _ | present at_place _ | absent at_place _
    | found _ _ _ at_place _ | notFound at_place _ | failed at_place _ | connected at_place _ _
    | disconnected at_place _ _ | clear at_place | unlock at_place => exact kept at_place id
  | lock | lockDying =>
      refine Function.update_of_ne ?_ _ _
      rintro rfl
      exact other rfl
  | die | idle => rfl

/-- A thread that gets the lock holds it. -/
theorem Step.locked (step : Step manager (.lock thread) next) : next.mLock = some thread := by
  cases step with
  | lock | lockDying => rfl

/-- A thread in the loop of `createEventQueue` whose server has died. -/
def Caught (manager : SensorManager Thread Server) (thread : Thread) : Prop :=
  (manager.place thread).Loops ∧
    ∃ server, manager.mSensorServer = some server ∧ manager.dead server = true

/-- The holder of the lock comes nearer to giving it back, unless it is caught. -/
theorem Step.advance (step : Step manager (.advance thread) next) (owned : manager.Owned) :
    manager.Caught thread ∨
      (next.mLock = none ∧ ∃ last, next.place thread = .outside last) ∨
      (next.mLock = some thread ∧
        (next.place thread).remaining < (manager.place thread).remaining) := by
  have held := step.held owned
  have nearer : ∀ {before after : Place Server}, manager.place thread = before →
      after.remaining < before.remaining →
      (Function.update manager.place thread after thread).remaining <
        (manager.place thread).remaining := by
    intro before after at_place less
    rwa [Function.update_self, at_place]
  cases step with
  | present at_place _ | found _ _ _ at_place _ | failed at_place _ =>
      refine .inr (.inr ⟨held, nearer at_place ((afterAssert_place _ _ _).2.trans_lt ?_)⟩)
      simp only [Place.remaining]
      omega
  | absent at_place _ => exact .inr (.inr ⟨held, nearer at_place (Nat.lt_succ_self 7)⟩)
  | notFound at_place more =>
      refine .inr (.inr ⟨held, nearer at_place ?_⟩)
      simp only [Place.remaining]
      omega
  | connected at_place _ _ | clear at_place =>
      exact .inr (.inr ⟨held, nearer at_place (Nat.lt_succ_self 1)⟩)
  | disconnected at_place server died =>
      left
      refine ⟨?_, _, server, died⟩
      rw [at_place]
      trivial
  | unlock at_place => exact .inr (.inl ⟨rfl, _, Function.update_self _ _ _⟩)

end SensorManager

end T00F.Libshims
