import Mathlib

/-!
# Data guarded by a lock

Threads at places, one lock and the data that only its holder changes. A `Discipline` says
where a thread holds the lock, what is true of the data while nobody does, what a thread knows
at its place, and how the data may grow, so that knowledge outside of the lock lasts.
`Upheld.moved`, `Upheld.enter`, `Upheld.within` and `Upheld.leave` are the rules for a step of
one thread.
-/

namespace Systems

universe u v w

/-- What the places of the threads have to do with the data of a lock. -/
structure Discipline (Place : Type u) (Data : Type v) where
  Inside : Place → Prop
  Free : Data → Prop
  Knows : Place → Data → Prop
  Grows : Data → Data → Prop
  lasts : ∀ {place data later}, ¬ Inside place → Knows place data → Grows data later →
    Knows place later

variable {Thread : Type w} {Place : Type u} {Data : Type v}

/-- The lock is held by the only thread inside, and each thread knows what its place says. -/
structure Upheld (discipline : Discipline Place Data) (holder : Option Thread)
    (place : Thread → Place) (data : Data) : Prop where
  holds : ∀ thread, discipline.Inside (place thread) ↔ holder = some thread
  free : holder = none → discipline.Free data
  knows : ∀ thread, discipline.Knows (place thread) data

namespace Upheld

variable {discipline : Discipline Place Data} {holder : Option Thread} {place : Thread → Place}
  {data later : Data} {thread : Thread} {here there : Place}

/-- A thread that is inside holds the lock. -/
theorem held (upheld : Upheld discipline holder place data)
    (inside : discipline.Inside (place thread)) : holder = some thread :=
  (upheld.holds thread).mp inside

/-- Nobody else is inside together with the holder. -/
theorem others (upheld : Upheld discipline holder place data)
    (inside : discipline.Inside (place thread)) {other : Thread} (different : other ≠ thread) :
    ¬ discipline.Inside (place other) := by
  intro also
  have same := (upheld.held inside).symm.trans (upheld.held also)
  exact different (Option.some.inj same).symm

variable [DecidableEq Thread]

/-- A step that neither takes the lock, nor gives it back, nor changes the data. -/
theorem moved (upheld : Upheld discipline holder place data)
    (at_place : place thread = here) (same : discipline.Inside there ↔ discipline.Inside here)
    (known : discipline.Knows here data → discipline.Knows there data) :
    Upheld discipline holder (Function.update place thread there) data where
  holds := by
    refine (Function.forall_update_iff place
      fun other at_place => discipline.Inside at_place ↔ holder = some other).mpr
      ⟨?_, fun other _ => upheld.holds other⟩
    rw [← upheld.holds thread, at_place]
    exact same
  free := upheld.free
  knows := by
    refine (Function.forall_update_iff place
      fun _ at_place => discipline.Knows at_place data).mpr ⟨known ?_, fun other _ => ?_⟩
    · exact at_place ▸ upheld.knows thread
    · exact upheld.knows other

/-- Taking the lock while it is free. -/
theorem enter (upheld : Upheld discipline none place data)
    (inside : discipline.Inside there) (known : discipline.Knows there data) :
    Upheld discipline (some thread) (Function.update place thread there) data where
  holds := by
    refine (Function.forall_update_iff place
      fun other at_place => discipline.Inside at_place ↔ some thread = some other).mpr
      ⟨iff_of_true inside rfl, fun other different => ?_⟩
    rw [upheld.holds other]
    exact iff_of_false (Option.some_ne_none other).symm
      fun same => different (Option.some.inj same).symm
  free locked := absurd locked (Option.some_ne_none thread)
  knows := (Function.forall_update_iff place
    fun _ at_place => discipline.Knows at_place data).mpr ⟨known, fun other _ => upheld.knows other⟩

/-- A step of the holder, who may change the data. -/
theorem within (upheld : Upheld discipline holder place data) (at_place : place thread = here)
    (before : discipline.Inside here) (after : discipline.Inside there)
    (grows : discipline.Grows data later) (known : discipline.Knows there later) :
    Upheld discipline holder (Function.update place thread there) later := by
  rw [← at_place] at before
  constructor
  case holds =>
    refine (Function.forall_update_iff place
      fun other at_place => discipline.Inside at_place ↔ holder = some other).mpr
      ⟨iff_of_true after (upheld.held before), fun other _ => upheld.holds other⟩
  case free =>
    intro unlocked
    rw [upheld.held before] at unlocked
    cases unlocked
  case knows =>
    refine (Function.forall_update_iff place
      fun _ at_place => discipline.Knows at_place later).mpr ⟨known, fun other different => ?_⟩
    exact discipline.lasts (upheld.others before different) (upheld.knows other) grows

/-- Giving the lock back. -/
theorem leave (upheld : Upheld discipline holder place data) (at_place : place thread = here)
    (before : discipline.Inside here) (after : ¬ discipline.Inside there)
    (free : discipline.Free data) (known : discipline.Knows there data) :
    Upheld discipline none (Function.update place thread there) data := by
  rw [← at_place] at before
  constructor
  case holds =>
    refine (Function.forall_update_iff place
      fun other at_place => discipline.Inside at_place ↔ none = some other).mpr
      ⟨iff_of_false after (Option.some_ne_none thread).symm, fun other different => ?_⟩
    exact iff_of_false (upheld.others before different) (Option.some_ne_none other).symm
  case free => exact fun _ => free
  case knows =>
    exact (Function.forall_update_iff place fun _ at_place => discipline.Knows at_place data).mpr
      ⟨known, fun other _ => upheld.knows other⟩

end Upheld

end Systems
