import T00F.Libshims.SensorManager

/-!
# The constructor

The constructor of `SensorManager` calls `assertStateLocked` without the lock, and links the
`DeathObserver` in the middle of it. `construction` follows it from statement to statement
while servers die, `interrupted` when a death is delivered to it as well.
`constructed_of_undisturbed` says that without such a delivery it leaves what the runs of the
manager start from, `interrupted_crashes` what else may come of it.
-/

namespace T00F.Libshims

open Systems

universe u v

/-- Where the constructor is: in the loop around `getService`, behind it, behind
`linkToDeath`, behind `getSensorList`, or at its end. -/
inductive Phase where
  | searching (attempt : Nat)
  | found
  | linked
  | fetched
  | finished
  | crashed
deriving DecidableEq, Repr

/-- The manager under construction. -/
structure Construction (Thread : Type u) (Server : Type v) where
  manager : SensorManager Thread Server
  phase : Phase

variable {Thread : Type u} {Server : Type v}

namespace Construction

/-- The constructor goes on, or a server dies. -/
inductive Step [DecidableEq Server] :
    Construction Thread Server → Construction Thread Server → Prop where
  | getService {state attempt} (server : Server) : state.phase = .searching attempt →
      Step state ⟨{ state.manager with mSensorServer := some server }, .found⟩
  | notFound {state attempt} : state.phase = .searching attempt → attempt + 1 < 4 →
      Step state { state with phase := .searching (attempt + 1) }
  | failed {state attempt} : state.phase = .searching attempt → ¬ attempt + 1 < 4 →
      Step state { state with phase := .finished }
  | linkToDeath {state server} (linked : Bool) : state.phase = .found →
      state.manager.mSensorServer = some server → state.manager.Links server linked →
      Step state ⟨{ state.manager with mDeathObserver := if linked then some server else none },
        .linked⟩
  | getSensorList {state server} (sensors : List Sensor) : state.phase = .linked →
      state.manager.mSensorServer = some server →
      Step state ⟨{ state.manager with mSensors := sensors }, .fetched⟩
  /-- `mSensorServer->getSensorList` without a server. -/
  | crash {state} : state.phase = .linked → state.manager.mSensorServer = none →
      Step state { state with phase := .crashed }
  | list {state} : state.phase = .fetched →
      Step state ⟨{ state.manager with mSensorList := some state.manager.mSensors }, .finished⟩
  | die {state} (server : Server) :
      Step state { state with manager :=
        { state.manager with dead := Function.update state.manager.dead server true } }

/-- Another thread is told of a death and runs `sensorManagerDied`, for which the lock is free. -/
inductive Delivery : Construction Thread Server → Construction Thread Server → Prop where
  | binderDied {state server} : state.manager.mDeathObserver = some server →
      state.manager.dead server = true →
      Delivery state { state with manager := { state.manager.cleared with mDeathObserver := none } }

/-- What the fields are at each place, if no death has been delivered. -/
def Orderly (state : Construction Thread Server) : Prop :=
  match state.phase with
  | .searching _ => state.manager = SensorManager.blank state.manager.dead
  | .found => ∃ server, state.manager =
      { SensorManager.blank state.manager.dead with mSensorServer := some server }
  | .linked => ∃ server linked, state.manager.Links server linked ∧ state.manager =
      { SensorManager.blank state.manager.dead with
        mSensorServer := some server
        mDeathObserver := if linked then some server else none }
  | .fetched => ∃ server linked sensors, state.manager.Links server linked ∧ state.manager =
      { SensorManager.blank state.manager.dead with
        mSensorServer := some server
        mDeathObserver := if linked then some server else none
        mSensors := sensors }
  | .finished => state.manager.Constructed
  | .crashed => False

end Construction

/-- The constructor, among servers that may die. -/
def construction (Thread : Type u) (Server : Type v) [DecidableEq Server] :
    TransitionSystem (Construction Thread Server) where
  Initial state := ∃ dead, state = ⟨SensorManager.blank dead, .searching 0⟩
  Step := Construction.Step

/-- The constructor, to which deaths are delivered. -/
def interrupted (Thread : Type u) (Server : Type v) [DecidableEq Server] :
    TransitionSystem (Construction Thread Server) where
  Initial := (construction Thread Server).Initial
  Step state next := Construction.Step state next ∨ Construction.Delivery state next

namespace Construction

variable [DecidableEq Server] {state next : Construction Thread Server}

/-- What a server has accepted or refused stands when servers die. -/
theorem links_die {manager : SensorManager Thread Server} {server other : Server} {linked : Bool}
    (links : manager.Links server linked) :
    ({ manager with dead := Function.update manager.dead other true } :
      SensorManager Thread Server).Links server linked := by
  intro alive
  apply links
  by_cases same : server = other
  · rw [same] at alive
    simp at alive
  · simpa [same] using alive

/-- Every step keeps the fields in order. -/
theorem Step.orderly (step : Step state next) (orderly : state.Orderly) : next.Orderly := by
  cases step with
  | getService server searching =>
      rw [Orderly, searching] at orderly
      exact ⟨server, by rw [orderly]; rfl⟩
  | notFound searching more =>
      rw [Orderly, searching] at orderly
      exact orderly
  | failed searching last =>
      rw [Orderly, searching] at orderly
      rw [Orderly, orderly]
      exact .failed _
  | @linkToDeath server linked found present links =>
      rw [Orderly, found] at orderly
      obtain ⟨own, fields⟩ := orderly
      rw [fields] at present
      cases present
      exact ⟨server, linked, links, by rw [fields]; rfl⟩
  | getSensorList sensors linked present =>
      rw [Orderly, linked] at orderly
      obtain ⟨server, accepted, links, fields⟩ := orderly
      exact ⟨server, accepted, sensors, links, by rw [fields]; rfl⟩
  | crash linked none =>
      rw [Orderly, linked] at orderly
      obtain ⟨server, accepted, -, fields⟩ := orderly
      rw [fields] at none
      cases none
  | list fetched =>
      rw [Orderly, fetched] at orderly
      obtain ⟨server, linked, sensors, links, fields⟩ := orderly
      rw [Orderly, fields]
      exact .fetched _ server sensors linked links
  | die dying =>
      obtain ⟨manager, phase⟩ := state
      cases phase with
      | searching attempt =>
          have fields : manager = SensorManager.blank manager.dead := orderly
          rw [Orderly, fields]
          rfl
      | found =>
          obtain ⟨server, fields⟩ := orderly
          exact ⟨server, by rw [fields]; rfl⟩
      | linked =>
          obtain ⟨server, linked, links, fields⟩ := orderly
          exact ⟨server, linked, links_die links, by rw [fields]; rfl⟩
      | fetched =>
          obtain ⟨server, linked, sensors, links, fields⟩ := orderly
          exact ⟨server, linked, sensors, links_die links, by rw [fields]; rfl⟩
      | finished =>
          have constructed : manager.Constructed := orderly
          cases constructed with
          | failed dead => exact .failed _
          | fetched dead server sensors linked links =>
              exact .fetched _ server sensors linked (links_die links)
      | crashed => exact orderly

end Construction

open Construction

variable [DecidableEq Server]

/-- If no death is delivered to it, the constructor does not crash, and at its end it has fetched
a server, which may have died since, or has given up. -/
theorem constructed_of_undisturbed {state : Construction Thread Server}
    (reachable : (construction Thread Server).Reachable state) :
    state.phase ≠ .crashed ∧ (state.phase = .finished → state.manager.Constructed) := by
  have orderly : state.Orderly := by
    apply TransitionSystem.invariant _ _ reachable
    · rintro _ ⟨dead, rfl⟩
      rfl
    · intro _ _ orderly step
      exact step.orderly orderly
  constructor
  · intro crashed
    rw [Orderly, crashed] at orderly
    exact orderly
  · intro finished
    rwa [Orderly, finished] at orderly

/-- If the service dies as soon as it is linked, the notification may clear the server that the
constructor is about to ask for its sensors. -/
theorem interrupted_crashes (Thread : Type u) (server : Server) :
    ∃ state, (interrupted Thread Server).Reachable state ∧ state.phase = .crashed := by
  have start : (interrupted Thread Server).Reachable
      ⟨SensorManager.blank fun _ => false, .searching 0⟩ := .initial ⟨_, rfl⟩
  have found := start.step (.inl (.getService server rfl))
  have linked := found.step (.inl (.linkToDeath true rfl rfl fun _ => rfl))
  have died := linked.step (.inl (.die server))
  have cleared := died.step (.inr (.binderDied rfl (Function.update_self _ _ _)))
  exact ⟨_, cleared.step (.inl (.crash rfl rfl)), rfl⟩

end T00F.Libshims
