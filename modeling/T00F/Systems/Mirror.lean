import Mathlib

/-!
# A copy that threads bring up to date

A set of keys and a copy of it. A thread that has changed the set updates the copy later,
and others may act in between. `Settled` says that every difference is still about to be
corrected. A change keeps it, and `settled_update_iff` says which updates do.
-/

namespace Systems

universe u v

/-- The set, its copy, and the update that each thread has still to make: a key, and
whether it is present. -/
structure Mirror (Thread : Type u) (Key : Type v) where
  actual : Key → Bool
  copy : Key → Bool
  pending : Thread → Option (Key × Bool)

namespace Mirror

variable {Thread : Type u} {Key : Type v}

/-- The copy is right about every key for which no right update is pending. -/
def Settled (state : Mirror Thread Key) : Prop :=
  ∀ key, state.copy key = state.actual key ∨
    ∃ thread, state.pending thread = some (key, state.actual key)

/-- An update agrees with the set, or an update that does is still to come. -/
def InTime (state : Mirror Thread Key) (key : Key) (present : Bool) : Prop :=
  state.actual key = present ∨ ∃ thread, state.pending thread = some (key, !present)

/-- With no update pending, the copy is right. -/
theorem Settled.copy_eq {state : Mirror Thread Key} (settled : state.Settled)
    (idle : ∀ thread, state.pending thread = none) (key : Key) :
    state.copy key = state.actual key := by
  rcases settled key with right | ⟨thread, pending⟩
  · exact right
  · rw [idle thread] at pending
    cases pending

variable [DecidableEq Thread] {state : Mirror Thread Key} {thread : Thread} {key : Key}
  {present : Bool}

/-- What is pending elsewhere stays pending. -/
theorem pending_elsewhere {wanted : Key × Bool} {writer : Thread}
    (correct : state.pending writer = some wanted) (elsewhere : state.pending thread ≠ some wanted)
    (other : Option (Key × Bool)) :
    Function.update state.pending thread other writer = some wanted := by
  have others : writer ≠ thread := by
    rintro rfl
    exact elsewhere correct
  rw [Function.update_of_ne others, correct]

variable [DecidableEq Key]

/-- A thread changes the set. -/
def change (state : Mirror Thread Key) (thread : Thread) (key : Key) (present : Bool) :
    Mirror Thread Key :=
  { state with
    actual := Function.update state.actual key present
    pending := Function.update state.pending thread (some (key, present)) }

/-- A thread updates the copy. -/
def update (state : Mirror Thread Key) (thread : Thread) (key : Key) (present : Bool) :
    Mirror Thread Key :=
  { state with
    copy := Function.update state.copy key present
    pending := Function.update state.pending thread none }

/-- The thread that has made a change updates the copy. -/
theorem Settled.change (settled : state.Settled) (idle : state.pending thread = none) :
    (state.change thread key present).Settled := by
  intro other
  unfold Mirror.change
  dsimp only
  by_cases same : other = key
  · rw [same, Function.update_self]
    exact Or.inr ⟨thread, Function.update_self _ _ _⟩
  · rw [Function.update_of_ne same]
    rcases settled other with right | ⟨writer, correct⟩
    · exact Or.inl right
    · have elsewhere : state.pending thread ≠ some (other, state.actual other) := by
        rw [idle]
        exact (Option.some_ne_none _).symm
      exact Or.inr ⟨writer, pending_elsewhere correct elsewhere _⟩

/-- An update in time leaves the copy right about its key, or a right update pending. -/
theorem InTime.settled (settled : state.Settled)
    (pending : state.pending thread = some (key, present)) (inTime : state.InTime key present) :
    (state.update thread key present).Settled := by
  intro other
  unfold Mirror.update
  dsimp only
  by_cases same : other = key
  · rw [same, Function.update_self]
    by_cases agrees : state.actual key = present
    · exact Or.inl agrees.symm
    · obtain ⟨writer, correct⟩ := inTime.resolve_left agrees
      have elsewhere : state.pending thread ≠ some (key, !present) := by
        rw [pending]
        simp
      rw [Bool.eq_not.mpr agrees]
      exact Or.inr ⟨writer, pending_elsewhere correct elsewhere _⟩
  · rw [Function.update_of_ne same]
    rcases settled other with right | ⟨writer, correct⟩
    · exact Or.inl right
    · have elsewhere : state.pending thread ≠ some (other, state.actual other) := by
        rw [pending]
        simp [Ne.symm same]
      exact Or.inr ⟨writer, pending_elsewhere correct elsewhere _⟩

/-- The updates that may be made are exactly those that are in time. -/
theorem settled_update_iff (settled : state.Settled)
    (pending : state.pending thread = some (key, present)) :
    (state.update thread key present).Settled ↔ state.InTime key present := by
  refine ⟨fun after => ?_, fun inTime => inTime.settled settled pending⟩
  unfold Mirror.update at after
  rcases after key with right | ⟨writer, correct⟩
  · dsimp only at right
    rw [Function.update_self] at right
    exact Or.inl right.symm
  · dsimp only at correct
    have others : writer ≠ thread := by
      rintro rfl
      rw [Function.update_self] at correct
      cases correct
    rw [Function.update_of_ne others] at correct
    by_cases agrees : state.actual key = present
    · exact Or.inl agrees
    · rw [Bool.eq_not.mpr agrees] at correct
      exact Or.inr ⟨writer, correct⟩

end Mirror

end Systems
