import T00F.Sensors.Multihal

/-!
# Closing a context

`sensors_poll_context_t::close` closes the sub-devices one after another, while the
writer tasks go on: nothing tells them to stop, and they hold neither the context nor
its list of threads. `closed_quiet` says in which runs no writer task comes back to a
sub-device that was closed, and that in every other state it may.
-/

namespace T00F.Sensors

open Systems

variable {n : Nat}

/-- A writer task uses its queue or its sub-device: a locked section, of which the first
ends with a region for the sub-device or in a wait and the second makes a batch readable,
or the call of the sub-device's poll in between. -/
inductive WriterUse (index : Fin n) (state : Multihal n) : Multihal n → Prop where
  | start : state.writers index = .idle → state.poller.holdsLock = false →
      WriterUse index state (state.reserve index)
  | resume {signaled} : state.writers index = .waiting signaled →
      state.poller.holdsLock = false → WriterUse index state (state.reserve index)
  | poll {out length} : state.writers index = .reserved out length →
      WriterUse index state (state.setWriter index (.polling out length))
  | finish {out length batch} : state.writers index = .polled out length batch →
      state.poller.holdsLock = false → WriterUse index state (state.commit index batch)

/-- What a task does is a step of the system. -/
theorem WriterUse.step {registry : Registry} {index : Fin n} {state next : Multihal n}
    (used : WriterUse index state next) : Multihal.Step registry state next := by
  cases used with
  | start idle unlocked => exact .lock idle unlocked
  | resume waiting unlocked => exact .space waiting unlocked
  | poll reserved => exact .poll reserved
  | finish polled unlocked => exact .mark polled unlocked

/-- The tasks, and how far `close` has come: `nextClose` is the sub-device that it closes
next, `closed` those that it has closed, `late` the sub-devices whose writer task has
used them or their queue after they were closed. -/
structure Closing (n : Nat) where
  tasks : Multihal n
  nextClose : Option Nat
  closed : Fin n → Bool
  late : List (Fin n)

namespace Closing

/-- The steps of the tasks and of `close`. -/
inductive Step (registry : Registry) : Closing n → Closing n → Prop where
  | writer {state index tasks} : WriterUse index state.tasks tasks →
      Step registry state
        { state with
          tasks := tasks
          late := if state.closed index then state.late ++ [index] else state.late }
  | other {state tasks} : Multihal.Step registry state.tasks tasks →
      (∀ index, ¬ WriterUse index state.tasks tasks) →
      Step registry state { state with tasks := tasks }
  | close {state} : state.nextClose = none →
      Step registry state { state with nextClose := some 0 }
  /-- `dev->close(dev)` for the next sub-device. -/
  | closeDevice {state} {index : Fin n} : state.nextClose = some index.val →
      Step registry state
        { state with
          nextClose := some (index.val + 1)
          closed := Function.update state.closed index true }

/-- The state that `open_sensors` leaves. -/
def opened (memory : Fin n → Nat → SensorsEvent) : Closing n :=
  ⟨.opened memory, none, fun _ => false, []⟩

end Closing

/-- A context with `n` sub-devices that may be closed at any time. -/
def closing (registry : Registry) (n : Nat) : TransitionSystem (Closing n) where
  Initial state := ∃ memory, state = Closing.opened memory
  Step := Closing.Step registry

/-- The writer task of every closed sub-device is inside the sub-device's poll. -/
def Contained (state : Closing n) : Prop :=
  ∀ index, state.closed index = true →
    ∃ out length, state.tasks.writers index = .polling out length

/-- A writer task inside its sub-device's poll uses nothing. -/
theorem WriterUse.not_polling {index : Fin n} {state next : Multihal n}
    (used : WriterUse index state next) {out : Option Nat} {length : Int} :
    state.writers index ≠ .polling out length := by
  intro polling
  cases used with
  | start idle => cases polling.symm.trans idle
  | resume waiting => cases polling.symm.trans waiting
  | poll reserved => cases polling.symm.trans reserved
  | finish polled => cases polling.symm.trans polled

/-- Any other writer task uses its queue or its sub-device next, when the lock is free. -/
theorem exists_writerUse {index : Fin n} {state : Multihal n}
    (free : state.poller.holdsLock = false)
    (outside : ¬ ∃ out length, state.writers index = .polling out length) :
    ∃ next, WriterUse index state next := by
  cases writer : state.writers index with
  | idle => exact ⟨_, .start writer free⟩
  | waiting signaled => exact ⟨_, .resume writer free⟩
  | reserved out length => exact ⟨_, .poll writer⟩
  | polling out length => exact absurd ⟨out, length, writer⟩ outside
  | polled out length batch => exact ⟨_, .finish writer free⟩

/-- While every task is contained no step makes a late call. -/
theorem step_quiet {registry : Registry} {state next : Closing n} (quiet : state.late = [])
    (contained : Contained state) (step : Closing.Step registry state next) : next.late = [] := by
  cases step with
  | @writer index _ used =>
      have stillOpen : state.closed index ≠ true := by
        intro closed
        obtain ⟨out, length, polling⟩ := contained index closed
        exact used.not_polling polling
      rw [if_neg stillOpen]
      exact quiet
  | other => exact quiet
  | close => exact quiet
  | closeDevice => exact quiet

/-- In a run in which the writer task of each sub-device stays inside its poll from the
time that it is closed, no writer task calls the poll of a closed sub-device or touches its
queue. In any other reachable state some writer task can do so in the next step, unless the
poller holds the lock. -/
theorem closed_quiet (registry : Registry) (n : Nat) :
    (∀ state, ((closing registry n).restrict Contained).Reachable state → state.late = []) ∧
    ∀ state, (closing registry n).Reachable state → ¬ Contained state →
      state.tasks.poller.holdsLock = false →
      ∃ next, (closing registry n).Step state next ∧ next.late ≠ [] := by
  constructor
  · intro state reachable
    apply TransitionSystem.invariant _ _ reachable
    · rintro _ ⟨memory, rfl⟩
      rfl
    · rintro _ _ quiet ⟨contained, step⟩
      exact step_quiet quiet contained step
  · intro state _ escaped free
    simp only [Contained, not_forall] at escaped
    obtain ⟨index, closed, outside⟩ := escaped
    obtain ⟨tasks, used⟩ := exists_writerUse free outside
    exact ⟨_, .writer used, by simp [closed]⟩

/-- A sub-device is closed while its poll is blocked; the poll returns an error, and the
writer task calls it again. -/
theorem closed_polled_again :
    ¬ ∀ state, (closing .empty 1).Reachable state → state.late = [] := by
  intro quiet
  have opened : (closing .empty 1).Reachable
      (Closing.opened fun _ _ => ⟨0, 0, 0, 0, 0, 0, []⟩) := .initial ⟨_, rfl⟩
  have reserved := opened.step (.writer (@WriterUse.start 1 0 _ rfl rfl))
  have polling := reserved.step (.writer (@WriterUse.poll 1 0 _ (some 0) 36 rfl))
  have closes := polling.step (.close rfl)
  have closed := closes.step (@Closing.Step.closeDevice 1 _ _ 0 rfl)
  have returned := closed.step (.other (@Multihal.Step.nothing 1 _ _ 0 (some 0) 36 rfl) (by
    intro index used
    cases Fin.fin_one_eq_zero index
    exact used.not_polling rfl))
  have reservedAgain := returned.step (.writer (@WriterUse.start 1 0 _ rfl rfl))
  have again := reservedAgain.step (.writer (@WriterUse.poll 1 0 _ (some 0) 36 rfl))
  have late := quiet _ again
  cases late

end T00F.Sensors
