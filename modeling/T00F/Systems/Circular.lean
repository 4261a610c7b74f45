import Mathlib

/-!
# Circular buffers

The window of a circular buffer: the `size` cells from `start` on, modulo the
capacity. `window_cons` takes a cell off the front, `window_append` extends the
window at the end, `window_congr` is the frame rule for writes outside of it, and
`slot_outside` shows that the free cells behind the window lie outside of it.
-/

namespace Systems

universe u

variable {α : Type u} {data data' : Nat → α} {capacity start size : Nat}

/-- The cells of a window in order. -/
def window (data : Nat → α) (capacity start size : Nat) : List α :=
  (List.range size).map fun place => data ((start + place) % capacity)

@[simp] theorem window_zero (data : Nat → α) (capacity start : Nat) :
    window data capacity start 0 = [] := rfl

@[simp] theorem length_window (data : Nat → α) (capacity start size : Nat) :
    (window data capacity start size).length = size := by simp [window]

/-- A window only depends on its own cells. -/
theorem window_congr
    (agree : ∀ place < size, data' ((start + place) % capacity) = data ((start + place) % capacity)) :
    window data' capacity start size = window data capacity start size :=
  List.map_congr_left fun place inside => agree place (List.mem_range.mp inside)

/-- Two adjacent windows. -/
theorem window_append (data : Nat → α) (capacity start size count : Nat) :
    window data capacity start (size + count) =
      window data capacity start size ++ window data capacity ((start + size) % capacity) count := by
  simp only [window, List.range_add, List.map_append, List.map_map, Function.comp_def,
    Nat.mod_add_mod, Nat.add_assoc]

/-- The first cell of a window and the rest. -/
theorem window_cons (data : Nat → α) (inside : start < capacity) (size : Nat) :
    window data capacity start (size + 1) =
      data start :: window data capacity ((start + 1) % capacity) size := by
  rw [Nat.add_comm size 1, window_append]
  simp [window, Nat.mod_eq_of_lt inside]

/-- A window that does not wrap. -/
theorem window_contiguous (data : Nat → α) {first count : Nat} (fits : first + count ≤ capacity) :
    window data capacity first count = (List.range count).map fun place => data (first + place) := by
  apply List.map_congr_left
  intro place inside
  have bound := List.mem_range.mp inside
  rw [Nat.mod_eq_of_lt (by omega)]

/-- Where the first free cell lies. -/
theorem behind_window (inside : start < capacity) (bound : size ≤ capacity) :
    (start + size) % capacity =
      if start + size < capacity then start + size else start + size - capacity := by
  split
  next before => exact Nat.mod_eq_of_lt before
  next wrapped =>
    rw [Nat.mod_eq_sub_mod (by omega), Nat.mod_eq_of_lt (by omega)]

/-- The free cells behind a window are not cells of the window. -/
theorem slot_outside (inside : start < capacity) {free slot : Nat}
    (room : size + free ≤ capacity) (low : (start + size) % capacity ≤ slot)
    (high : slot < (start + size) % capacity + free) {place : Nat} (within : place < size) :
    (start + place) % capacity ≠ slot := by
  rw [behind_window inside (by omega)] at low high
  rw [behind_window inside (by omega)]
  split at low <;> split at high <;> split <;> omega

/-! ## Turns -/

/-- How many steps a cyclic counter takes from `origin` to `place`. -/
def ahead (count origin place : Nat) : Nat := (place + count - origin) % count

/-- The distance ahead is less than the capacity. -/
theorem ahead_lt {count : Nat} (positive : 0 < count) (origin place : Nat) :
    ahead count origin place < count := Nat.mod_lt _ positive

/-- The distance ahead without a remainder: straight on, or once around the end. -/
theorem ahead_eq {count origin place : Nat} (origin_lt : origin < count) (place_lt : place < count) :
    ahead count origin place = if origin ≤ place then place - origin else place + count - origin := by
  unfold ahead
  split
  next before =>
    rw [Nat.mod_eq_sub_mod (by omega), Nat.mod_eq_of_lt (by omega)]
    omega
  next behind => exact Nat.mod_eq_of_lt (by omega)

/-- A step brings every other place nearer. -/
theorem ahead_succ {count origin place : Nat} (origin_lt : origin < count)
    (place_lt : place < count) (other : place ≠ origin) :
    ahead count ((origin + 1) % count) place + 1 = ahead count origin place := by
  have next := Nat.mod_lt (origin + 1) (Nat.lt_of_le_of_lt (Nat.zero_le _) origin_lt)
  rw [ahead_eq next place_lt, ahead_eq origin_lt place_lt]
  rcases Nat.lt_or_ge (origin + 1) count with inner | last
  · rw [Nat.mod_eq_of_lt inner]
    split_ifs <;> omega
  · have wrapped : origin + 1 = count := by omega
    rw [wrapped, Nat.mod_self]
    split_ifs <;> omega

end Systems
