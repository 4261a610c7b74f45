import T00F.Libshims.SensorManager
import T00F.Systems.Progress

/-!
# The loop of createEventQueue

`createEventQueue` holds `mLock` while it asks the server for a connection again and
again, and `sensorManagerDied`, which would clear the server, needs the same lock.
`Step.caught` says that a thread that meets a dead server in the loop stays there,
`FairRun.released` that otherwise a fair scheduler lets every holder of the lock give it back, and
`recovers_iff` that these are the only runs in which the calls do not end.
-/

namespace T00F.Libshims

open Systems

universe u v

variable {Thread : Type u} {Server : Type v} [DecidableEq Thread] [DecidableEq Server]

namespace SensorManager

/-- An infinite run under a fair scheduler: the holder of the lock takes steps, and a thread
that waits for the lock gets it if it is free again and again. -/
structure FairRun (states : Nat → SensorManager Thread Server)
    (actions : Nat → Action Thread Server) : Prop where
  constructed : (states 0).Constructed
  step : ∀ time, Step (states time) (actions time) (states (time + 1))
  holder : ∀ thread, LeadsTo (fun time => (states time).mLock = some thread)
    fun time => actions time = .advance thread
  waiter : ∀ thread, LeadsTo (fun _ => True) (fun time => (states time).mLock = none) →
    LeadsTo (fun time => ((states time).place thread).Waits) fun time => actions time = .lock thread

/-- `assertStateLocked` has returned, with a server or because none could be got. -/
def Asserted (manager : SensorManager Thread Server) (thread : Thread) (request : Request) : Prop :=
  ∃ err, manager.place thread = manager.afterAssert err request ∧
    (err = noError ∧ manager.mSensorServer ≠ none ∨
      err = nameNotFound ∧ manager.mSensorServer = none)

/-- What the users of a manager rely on: `createEventQueue` ends, a thread that is told of the
death of the server clears it, and `assertStateLocked` without a server gets a new one or
fails. -/
structure Recovers (states : Nat → SensorManager Thread Server) : Prop where
  ends : ∀ thread, LeadsTo (fun time => ((states time).place thread).Creates)
    fun time => ∃ last, (states time).place thread = .outside last
  clears : ∀ thread, LeadsTo (fun time => (states time).place thread = .dying)
    fun time => (states time).mSensorServer = none
  asserts : ∀ thread request,
    LeadsTo (fun time => (states time).place thread = .asserting request ∧
        (states time).mSensorServer = none)
      fun time => (states time).Asserted thread request

variable {states : Nat → SensorManager Thread Server} {actions : Nat → Action Thread Server}
  {thread : Thread}

/-- In every state of a fair run the lock has its owner. -/
theorem FairRun.owned (run : FairRun states actions) (time : Nat) : (states time).Owned := by
  induction time with
  | zero => exact run.constructed.owned
  | succ time ih => exact (run.step time).owned ih

/-- The dead stay dead. -/
theorem Step.dead {manager next : SensorManager Thread Server} {action : Action Thread Server}
    (step : Step manager action next) {server : Server} (died : manager.dead server = true) :
    next.dead server = true := by
  cases step with
  | die other =>
      by_cases same : server = other
      · subst same
        exact Function.update_self _ _ _
      · exact (Function.update_of_ne same _ _).trans died
  | _ => exact died

section Steps

variable {manager next : SensorManager Thread Server}

/-- A dying thread that gets the lock clears the server next. -/
theorem Step.lock_dying (step : Step manager (.lock thread) next)
    (dying : manager.place thread = .dying) : next.place thread = .clearing := by
  cases step with
  | lock _ at_place =>
      rw [dying] at at_place
      cases at_place
  | lockDying => exact moved_place _ _ _

/-- Clearing leaves no server. -/
theorem Step.clear_server (step : Step manager (.advance thread) next)
    (clearing : manager.place thread = .clearing) : next.mSensorServer = none := by
  cases step with
  | clear => rfl
  | present at_place _ | absent at_place _ | found _ _ _ at_place _ | notFound at_place _
    | failed at_place _ | connected at_place _ _ | disconnected at_place _ _ | unlock at_place =>
      rw [clearing] at at_place
      cases at_place

/-- `assertStateLocked` has found no server yet. -/
def Asserting (manager : SensorManager Thread Server) (thread : Thread) (request : Request) :
    Prop :=
  (manager.place thread).asserts = some request ∧ manager.mSensorServer = none

/-- A step of `assertStateLocked` without a server is its last one or a further attempt. -/
theorem Step.assert {request : Request} (step : Step manager (.advance thread) next)
    (asserting : manager.Asserting thread request) :
    next.Asserted thread request ∨ next.Asserting thread request := by
  obtain ⟨asserts, none⟩ := asserting
  cases step with
  | present at_place server =>
      rw [server] at none
      cases none
  | absent at_place _ =>
      rw [at_place] at asserts
      cases asserts
      exact .inr ⟨by rw [moved_place]; rfl, none⟩
  | found server sensors linked at_place _ =>
      rw [at_place] at asserts
      cases asserts
      exact .inl ⟨noError, moved_place _ _ _, .inl ⟨rfl, Option.some_ne_none server⟩⟩
  | notFound at_place _ =>
      rw [at_place] at asserts
      cases asserts
      exact .inr ⟨by rw [moved_place]; rfl, none⟩
  | failed at_place _ =>
      rw [at_place] at asserts
      cases asserts
      exact .inl ⟨nameNotFound, moved_place _ _ _, .inr ⟨rfl, none⟩⟩
  | connected at_place _ _ | disconnected at_place _ _ | clear at_place | unlock at_place =>
      rw [at_place] at asserts
      cases asserts

end Steps

/-- No step of anybody lets a thread go that is caught. -/
theorem Step.caught {manager next : SensorManager Thread Server} {action : Action Thread Server}
    (step : Step manager action next) (owned : manager.Owned) (caught : manager.Caught thread) :
    next.Caught thread := by
  obtain ⟨loops, server, present, died⟩ := caught
  by_cases acts : action = .advance thread
  · subst acts
    cases step with
    | present at_place _ =>
        rw [at_place] at loops
        cases loops
        exact ⟨by rw [moved_place]; trivial, server, present, died⟩
    | disconnected at_place _ _ => exact ⟨by rw [moved_place]; rfl, server, present, died⟩
    | absent at_place none =>
        rw [none] at present
        cases present
    | connected at_place other alive =>
        rw [other] at present
        cases present
        rw [alive] at died
        cases died
    | found _ _ _ at_place _ | notFound at_place _ | failed at_place _ | clear at_place
      | unlock at_place =>
        rw [at_place] at loops
        exact loops.elim
  · obtain ⟨-, stays, same⟩ := step.other owned ((owned.holds thread).mp loops.inside) acts
    exact ⟨stays.symm ▸ loops, server, same.trans present, step.dead died⟩

/-- Unless the holder of the lock is caught, it gives it back and leaves its call. -/
theorem FairRun.released (run : FairRun states actions)
    (uncaught : ∀ time thread, ¬ (states time).Caught thread) (thread : Thread) :
    LeadsTo (fun time => (states time).mLock = some thread)
      fun time => (states time).mLock = none ∧
        ∃ last, (states time).place thread = .outside last := by
  refine leadsTo_of_rank (fun time => ((states time).place thread).remaining)
    (fun time => actions time = .advance thread) ?_ (run.holder thread)
  intro time held
  have step := run.step time
  by_cases acts : actions time = .advance thread
  · rw [acts] at step
    rcases step.advance (run.owned time) with caught | left | ⟨keeps, nearer⟩
    · exact absurd caught (uncaught time thread)
    · exact .inl left
    · exact .inr ⟨keeps, nearer.le, fun _ => nearer⟩
  · obtain ⟨keeps, stays, -⟩ := step.other (run.owned time) held acts
    exact .inr ⟨keeps, (congrArg _ stays).le, fun also => absurd also acts⟩

/-- Unless somebody is caught, the lock is free again and again. -/
theorem FairRun.free (run : FairRun states actions)
    (uncaught : ∀ time thread, ¬ (states time).Caught thread) :
    LeadsTo (fun _ => True) fun time => (states time).mLock = none := by
  intro time _
  rcases held : (states time).mLock with _ | thread
  · exact ⟨time, le_rfl, held⟩
  · obtain ⟨later, after, free, -⟩ := run.released uncaught thread time held
    exact ⟨later, after, free⟩

/-- Unless somebody is caught, every call of `createEventQueue` ends. -/
theorem FairRun.ends (run : FairRun states actions)
    (uncaught : ∀ time thread, ¬ (states time).Caught thread) (thread : Thread) :
    LeadsTo (fun time => ((states time).place thread).Creates)
      fun time => ∃ last, (states time).place thread = .outside last := by
  have leaves : LeadsTo (fun time => (states time).mLock = some thread)
      fun time => ∃ last, (states time).place thread = .outside last :=
    (run.released uncaught thread).trans (.of_imp fun _ released => released.2)
  intro time creates
  rcases creates.waits_or_inside with waits | inside
  · obtain ⟨locked, after, locks⟩ := run.waiter thread (run.free uncaught) time waits
    have step := run.step locked
    rw [locks] at step
    obtain ⟨later, reached, outside⟩ := leaves (locked + 1) step.locked
    exact ⟨later, by omega, outside⟩
  · exact leaves time (((run.owned time).holds thread).mp inside)

/-- A thread that is told of the death of the server gets the lock if it is free again and
again. -/
theorem FairRun.dying (run : FairRun states actions) (thread : Thread)
    (free : LeadsTo (fun _ => True) fun time => (states time).mLock = none) :
    LeadsTo (fun time => (states time).place thread = .dying)
      fun time => (states time).place thread = .clearing := by
  refine leadsTo_of_rank (fun _ => 0) (fun time => actions time = .lock thread) ?_ ?_
  · intro time dying
    have step := run.step time
    by_cases acts : actions time = .lock thread
    · rw [acts] at step
      exact .inl (step.lock_dying dying)
    · have waits : ((states time).place thread).Waits := dying.symm ▸ trivial
      exact .inr ⟨(step.waits waits acts).trans dying, le_rfl, fun also => absurd also acts⟩
  · intro time dying
    have waits : ((states time).place thread).Waits := dying.symm ▸ trivial
    exact run.waiter thread free time waits

/-- The body of `sensorManagerDied` clears the server. -/
theorem FairRun.clearing (run : FairRun states actions) (thread : Thread) :
    LeadsTo (fun time => (states time).place thread = .clearing)
      fun time => (states time).mSensorServer = none := by
  refine leadsTo_of_rank (fun _ => 0) (fun time => actions time = .advance thread) ?_ ?_
  · intro time clearing
    have step := run.step time
    have held := (run.owned time).held_at clearing trivial
    by_cases acts : actions time = .advance thread
    · rw [acts] at step
      exact .inl (step.clear_server clearing)
    · obtain ⟨-, stays, -⟩ := step.other (run.owned time) held acts
      exact .inr ⟨stays.trans clearing, le_rfl, fun also => absurd also acts⟩
  · exact fun time clearing =>
      run.holder thread time ((run.owned time).held_at clearing trivial)

/-- Without a server `assertStateLocked` gets a new one or fails, in every run. -/
theorem FairRun.asserts (run : FairRun states actions) (thread : Thread) (request : Request) :
    LeadsTo (fun time => (states time).place thread = .asserting request ∧
        (states time).mSensorServer = none)
      fun time => (states time).Asserted thread request := by
  have asserted : LeadsTo (fun time => (states time).Asserting thread request)
      fun time => (states time).Asserted thread request := by
    refine leadsTo_of_rank (fun time => ((states time).place thread).remaining)
      (fun time => actions time = .advance thread) ?_ ?_
    · intro time asserting
      have step := run.step time
      by_cases acts : actions time = .advance thread
      · rw [acts] at step
        rcases step.assert asserting with asserted | further
        · exact .inl asserted
        rcases step.advance (run.owned time) with ⟨-, server, present, -⟩ | ⟨-, last, outside⟩ |
          ⟨-, nearer⟩
        · rw [asserting.2] at present
          cases present
        · have inside := Place.inside_of_asserts further.1
          rw [outside] at inside
          exact inside.elim
        · exact .inr ⟨further, nearer.le, fun _ => nearer⟩
      · have held := ((run.owned time).holds thread).mp (Place.inside_of_asserts asserting.1)
        obtain ⟨-, stays, same⟩ := step.other (run.owned time) held acts
        have asserts := (congrArg Place.asserts stays).trans asserting.1
        exact .inr ⟨⟨asserts, same.trans asserting.2⟩, (congrArg _ stays).le,
          fun also => absurd also acts⟩
    · intro time asserting
      have inside := Place.inside_of_asserts asserting.1
      exact run.holder thread time (((run.owned time).holds thread).mp inside)
  rintro time ⟨at_place, none⟩
  exact asserted time ⟨congrArg Place.asserts at_place, none⟩

/-- Under a fair scheduler the manager recovers exactly if no thread ever finds itself in the
loop of `createEventQueue` with a server that has died. -/
theorem recovers_iff (run : FairRun states actions) :
    Recovers states ↔ ∀ time thread, ¬ (states time).Caught thread := by
  constructor
  · intro recovers time thread caught
    have stays := stable (P := fun time => (states time).Caught thread)
      (fun time caught => (run.step time).caught (run.owned time) caught) caught
    obtain ⟨later, after, last, outside⟩ := recovers.ends thread time caught.1.creates
    have loops := (stays later after).1
    rw [outside] at loops
    exact loops
  · intro uncaught
    exact ⟨run.ends uncaught,
      fun thread => (run.dying thread (run.free uncaught)).trans (run.clearing thread), run.asserts⟩

/-- The thread `false` creates a queue. The server dies, the thread `true` is told of it and
clears it, and the next call of `false` gets a queue on the new server. -/
def recovering : Nat → SensorManager Bool Bool
  | 0 => (blank fun _ => false).fetched false [] true
  | 1 => (recovering 0).moved false (.waiting .createEventQueue)
  | 2 => { (recovering 1).moved false (.asserting .createEventQueue) with mLock := some false }
  | 3 => (recovering 2).moved false .connecting
  | 4 => (recovering 3).moved false (.leaving (.eventQueue (some false)))
  | 5 => { (recovering 4).moved false (.outside (some (.eventQueue (some false)))) with
      mLock := none }
  | 6 => { recovering 5 with dead := Function.update (recovering 5).dead false true }
  | 7 => { (recovering 6).moved true .dying with mDeathObserver := none }
  | 8 => (recovering 7).moved false (.waiting .createEventQueue)
  | 9 => { (recovering 8).moved true .clearing with mLock := some true }
  | 10 => (recovering 9).cleared.moved true (.leaving .died)
  | 11 => { (recovering 10).moved true (.outside (some .died)) with mLock := none }
  | 12 => { (recovering 11).moved false (.asserting .createEventQueue) with mLock := some false }
  | 13 => (recovering 12).moved false (.getting .createEventQueue 0)
  | 14 => ((recovering 13).fetched true [] true).moved false .connecting
  | 15 => (recovering 14).moved false (.leaving (.eventQueue (some true)))
  | 16 => { (recovering 15).moved false (.outside (some (.eventQueue (some true)))) with
      mLock := none }
  | time + 17 => recovering (time + 16)

def recoveringActions : Nat → Action Bool Bool
  | 0 | 7 => .call false .createEventQueue
  | 1 | 11 => .lock false
  | 2 | 3 | 4 | 12 | 13 | 14 | 15 => .advance false
  | 5 => .die false
  | 6 => .binderDied true
  | 8 => .lock true
  | 9 | 10 => .advance true
  | _ => .idle

theorem recovering_idle (time : Nat) : recovering (time + 16) = recovering 16 := by
  induction time with
  | zero => rfl
  | succ time ih => exact ih

theorem recovering_step (time : Nat) :
    Step (recovering time) (recoveringActions time) (recovering (time + 1)) := by
  rcases time with _ | _ | _ | _ | _ | _ | _ | _ | _ | _ | _ | _ | _ | _ | _ | _ | time
  · exact .call _ rfl
  · exact .lock rfl rfl
  · exact @Step.present _ _ _ _ (recovering 2) false .createEventQueue false rfl rfl
  · exact .connected rfl rfl rfl
  · exact .unlock rfl
  · exact .die false
  · exact .binderDied rfl rfl rfl
  · exact .call _ rfl
  · exact .lockDying rfl rfl
  · exact .clear rfl
  · exact .unlock rfl
  · exact .lock rfl rfl
  · exact .absent rfl rfl
  · exact @Step.found _ _ _ _ (recovering 13) false .createEventQueue 0 true [] true rfl
      fun _ => rfl
  · exact .connected rfl rfl rfl
  · exact .unlock rfl
  · exact .idle

theorem recovering_fair : FairRun recovering recoveringActions where
  constructed := .fetched _ false [] true fun _ => rfl
  step := recovering_step
  holder thread time held := by
    rcases time with _ | _ | _ | _ | _ | _ | _ | _ | _ | _ | _ | _ | _ | _ | _ | _ | time
    case succ =>
      rw [recovering_idle] at held
      cases held
    all_goals cases held
    all_goals exact ⟨_, le_rfl, rfl⟩
  waiter thread _ time waits := by
    cases thread with
    | false =>
        by_cases early : time ≤ 11
        · exact ⟨11, early, rfl⟩
        · -- Its last call has the lock by now.
          obtain ⟨time, rfl⟩ := Nat.exists_eq_add_of_le' (Nat.lt_of_not_le early)
          rcases time with _ | _ | _ | _ | time
          case succ =>
            rw [recovering_idle] at waits
            exact waits.elim
          all_goals exact waits.elim
    | true =>
        by_cases early : time ≤ 8
        · exact ⟨8, early, rfl⟩
        · obtain ⟨time, rfl⟩ := Nat.exists_eq_add_of_le' (Nat.lt_of_not_le early)
          rcases time with _ | _ | _ | _ | _ | _ | _ | time
          case succ =>
            rw [recovering_idle] at waits
            exact waits.elim
          all_goals exact waits.elim

/-- Whenever the thread `false` is in the loop, its server is alive. -/
theorem recovering_uncaught (time : Nat) (thread : Bool) :
    ¬ (recovering time).Caught thread := by
  rintro ⟨loops, server, present, died⟩
  rcases time with _ | _ | _ | _ | _ | _ | _ | _ | _ | _ | _ | _ | _ | _ | _ | _ | time
  case succ =>
    rw [recovering_idle] at loops
    cases thread
    all_goals exact loops
  all_goals
    cases thread
    all_goals first
      | exact loops
      | cases present; cases died
      | cases present

theorem recovering_recovers : FairRun recovering recoveringActions ∧ Recovers recovering :=
  ⟨recovering_fair, (recovers_iff recovering_fair).mpr recovering_uncaught⟩

/-- A run in which the server dies while the thread `false` is in the loop: the thread `true` is
told of it and waits for the lock for ever. -/
def spinning : Nat → SensorManager Bool Unit
  | 0 => (blank fun _ => false).fetched () [] true
  | 1 => (spinning 0).moved false (.waiting .createEventQueue)
  | 2 => { (spinning 1).moved false (.asserting .createEventQueue) with mLock := some false }
  | 3 => { spinning 2 with dead := Function.update (spinning 2).dead () true }
  | 4 => { (spinning 3).moved true .dying with mDeathObserver := none }
  | time + 5 => (spinning (time + 4)).moved false
      (if time % 2 = 0 then .connecting else .asserting .createEventQueue)

def spinningActions : Nat → Action Bool Unit
  | 0 => .call false .createEventQueue
  | 1 => .lock false
  | 2 => .die ()
  | 3 => .binderDied true
  | _ => .advance false

theorem spinning_loops (time : Nat) :
    (spinning (time + 4)).mLock = some false ∧ (spinning (time + 4)).mSensorServer = some () ∧
      (spinning (time + 4)).dead () = true ∧ (spinning (time + 4)).place true = .dying ∧
      (spinning (time + 4)).place false =
        if time % 2 = 0 then .asserting .createEventQueue else .connecting := by
  induction time with
  | zero => exact ⟨rfl, rfl, rfl, rfl, rfl⟩
  | succ time ih =>
      obtain ⟨lock, server, died, dying, -⟩ := ih
      refine ⟨lock, server, died, dying, ?_⟩
      rw [spinning, moved_place]
      rcases Nat.mod_two_eq_zero_or_one time with even | odd
      · rw [if_pos even, if_neg (by omega)]
      · rw [if_neg (by omega), if_pos (by omega)]

/-- The thread goes around the loop. -/
theorem spinning_step (time : Nat) :
    Step (spinning (time + 4)) (.advance false) (spinning (time + 5)) := by
  obtain ⟨-, server, died, -, at_place⟩ := spinning_loops time
  rw [spinning]
  rcases Nat.mod_two_eq_zero_or_one time with even | odd
  · rw [if_pos even] at at_place ⊢
    exact .present at_place server
  · rw [if_neg (by omega)] at at_place ⊢
    exact .disconnected at_place server died

theorem spinning_lock (time : Nat) : (spinning (time + 2)).mLock = some false := by
  rcases time with _ | _ | time
  · rfl
  · rfl
  · exact (spinning_loops time).1

theorem spinning_fair : FairRun spinning spinningActions where
  constructed := .fetched _ () [] true fun _ => rfl
  step time := by
    rcases time with _ | _ | _ | _ | time
    · exact .call _ rfl
    · exact .lock rfl rfl
    · exact .die ()
    · exact .binderDied rfl rfl rfl
    · exact spinning_step time
  holder thread time held := by
    rcases time with _ | _ | time
    · cases held
    · cases held
    · rw [spinning_lock] at held
      cases held
      exact ⟨time + 4, by omega, rfl⟩
  waiter thread free := by
    -- The lock is never free again.
    obtain ⟨later, after, free⟩ := free 2 trivial
    obtain ⟨time, rfl⟩ := Nat.exists_eq_add_of_le' after
    rw [spinning_lock] at free
    cases free

/-- The loop goes on for ever with the same dead server, although another thread has been told of
its death. -/
theorem spinning_forever : FairRun spinning spinningActions ∧
    spinningActions 3 = .binderDied true ∧
    (∀ time, (spinning (time + 4)).place true = .dying ∧
      ((spinning (time + 4)).place false).Loops ∧
      (spinning (time + 4)).mSensorServer = some () ∧ (spinning (time + 4)).dead () = true) ∧
    ¬ Recovers spinning := by
  have loops : ∀ time, ((spinning (time + 4)).place false).Loops := by
    intro time
    rw [(spinning_loops time).2.2.2.2]
    split
    · rfl
    · trivial
  refine ⟨spinning_fair, rfl, fun time => ?_, fun recovers => ?_⟩
  · obtain ⟨-, server, died, dying, -⟩ := spinning_loops time
    exact ⟨dying, loops time, server, died⟩
  · obtain ⟨later, after, last, outside⟩ := recovers.ends false 4 (loops 0).creates
    obtain ⟨time, rfl⟩ := Nat.exists_eq_add_of_le' after
    have still := loops time
    rw [outside] at still
    exact still

end SensorManager

end T00F.Libshims
