import T00F.Systems.Circular

/-!
# Taking turns

A cyclic counter that stays or moves on by one in each step. `visited_between` is the law
of fairness: it does not come back to a place before it has visited all others.
-/

namespace Systems

/-- The counter moves on from a place. -/
def Visit (count : Nat) (turn : Nat → Nat) (place time : Nat) : Prop :=
  turn time = place ∧ turn (time + 1) = (place + 1) % count

/-- In the steps before `last` the counter stays or moves on by one. -/
structure Turning (count : Nat) (turn : Nat → Nat) (last : Nat) : Prop where
  turn_lt : ∀ time < last, turn time < count
  next : ∀ time < last, turn (time + 1) = turn time ∨ Visit count turn (turn time) time

variable {count : Nat}

/-- The counter comes back to a place last. -/
theorem ahead_after {place other : Nat} (place_lt : place < count) (other_lt : other < count)
    (different : other ≠ place) :
    ahead count ((place + 1) % count) other < ahead count ((place + 1) % count) place := by
  have next := Nat.mod_lt (place + 1) (Nat.lt_of_le_of_lt (Nat.zero_le _) place_lt)
  rw [ahead_eq next other_lt, ahead_eq next place_lt]
  rcases Nat.lt_or_ge (place + 1) count with inner | last
  · rw [Nat.mod_eq_of_lt inner]
    split_ifs <;> omega
  · have wrapped : place + 1 = count := by omega
    rw [wrapped, Nat.mod_self]
    split_ifs <;> omega

theorem ahead_self {place : Nat} (place_lt : place < count) : ahead count place place = 0 := by
  rw [ahead_eq place_lt place_lt, if_pos (Nat.le_refl _), Nat.sub_self]

variable {turn : Nat → Nat} {last : Nat}

/-- A step from where `other` comes before `place` visits `other` or leaves it before
`place`. -/
theorem Turning.step (turning : Turning count turn last) {time place other : Nat}
    (inside : time < last) (place_lt : place < count) (other_lt : other < count)
    (before : ahead count (turn time) other < ahead count (turn time) place) :
    Visit count turn other time ∨
      ahead count (turn (time + 1)) other < ahead count (turn (time + 1)) place := by
  have turn_lt := turning.turn_lt time inside
  rcases turning.next time inside with stays | visit
  · right
    rw [stays]
    exact before
  · by_cases here : turn time = other
    · left
      rwa [here] at visit
    · right
      have elsewhere : place ≠ turn time := by
        rintro rfl
        rw [ahead_self place_lt] at before
        omega
      have nearer := ahead_succ turn_lt place_lt elsewhere
      have otherNearer := ahead_succ turn_lt other_lt fun same => here same.symm
      rw [visit.2]
      omega

/-- Between a visit of a place and the next time that it has its turn, every other place
is visited. -/
theorem visited_between (turning : Turning count turn last) {first second place other : Nat}
    (order : first < second) (inside : second ≤ last) (place_lt : place < count)
    (other_lt : other < count) (different : other ≠ place) (visit : Visit count turn place first)
    (again : turn second = place) :
    ∃ time, first < time ∧ time < second ∧ Visit count turn other time := by
  -- Until `other` is visited it stays before `place`.
  have waits : ∀ time, first + 1 ≤ time → time ≤ second →
      (∃ earlier, first < earlier ∧ earlier < time ∧ Visit count turn other earlier) ∨
        ahead count (turn time) other < ahead count (turn time) place := by
    intro time after
    induction time, after using Nat.le_induction with
    | base =>
        intro _
        right
        rw [visit.2]
        exact ahead_after place_lt other_lt different
    | succ time after ih =>
        intro early
        rcases ih (by omega) with ⟨earlier, low, high, visited⟩ | before
        · exact Or.inl ⟨earlier, low, by omega, visited⟩
        · rcases turning.step (by omega) place_lt other_lt before with visited | still
          · exact Or.inl ⟨time, by omega, by omega, visited⟩
          · exact Or.inr still
  rcases waits second order (Nat.le_refl _) with visited | before
  · exact visited
  · rw [again, ahead_self place_lt] at before
    omega

end Systems
