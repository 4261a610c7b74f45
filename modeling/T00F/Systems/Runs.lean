import Mathlib

/-!
# Runs of cells

Memory as a function from places to cells, and the runs that are copied into it and out of
it. `loadRun_storeRun` is the law of a copy, `storeRun_outside` its frame rule.
-/

namespace Systems

universe u

variable {α : Type u}

/-- Copy a run into memory from a place on. -/
def storeRun (memory : Nat → α) (start : Nat) (run : List α) : Nat → α := fun place =>
  if start ≤ place then (run[place - start]?).getD (memory place) else memory place

/-- The run of cells from a place on. -/
def loadRun (memory : Nat → α) (start count : Nat) : List α :=
  (List.range count).map fun index => memory (start + index)

@[simp] theorem length_loadRun (memory : Nat → α) (start count : Nat) :
    (loadRun memory start count).length = count := by simp [loadRun]

variable {memory : Nat → α} {start : Nat} {run : List α}

/-- The cells of the stored run stand one after another from its start. -/
theorem storeRun_inside {index : Nat} {cell : α} (found : run[index]? = some cell) :
    storeRun memory start run (start + index) = cell := by
  rw [storeRun, if_pos (Nat.le_add_right start index), Nat.add_sub_cancel_left, found,
    Option.getD_some]

/-- A stored run leaves every place outside of it as it was. -/
theorem storeRun_outside {place : Nat} (outside : place < start ∨ start + run.length ≤ place) :
    storeRun memory start run place = memory place := by
  unfold storeRun
  split
  next behind =>
    rw [List.getElem?_eq_none (by omega), Option.getD_none]
  next => rfl

/-- What was stored is what a load of the same places returns. -/
theorem loadRun_storeRun (memory : Nat → α) (start : Nat) (run : List α) :
    loadRun (storeRun memory start run) start run.length = run := by
  apply List.ext_getElem?
  intro index
  rcases Nat.lt_or_ge index run.length with inside | outside
  · rw [loadRun, List.getElem?_map, List.getElem?_range inside, Option.map_some,
      storeRun_inside (List.getElem?_eq_getElem inside), List.getElem?_eq_getElem inside]
  · rw [List.getElem?_eq_none (by simpa using outside), List.getElem?_eq_none outside]

/-- The rest of a loaded run is the run loaded from further on. -/
theorem drop_loadRun (memory : Nat → α) (start count skipped : Nat) :
    (loadRun memory start count).drop skipped =
      loadRun memory (start + skipped) (count - skipped) := by
  apply List.ext_getElem?
  intro index
  rw [List.getElem?_drop]
  rcases Nat.lt_or_ge (skipped + index) count with inside | outside
  · have within : index < count - skipped := by omega
    rw [loadRun, loadRun, List.getElem?_map, List.getElem?_map, List.getElem?_range inside,
      List.getElem?_range within, Option.map_some, Option.map_some, Nat.add_assoc]
  · rw [List.getElem?_eq_none (by simpa using outside), List.getElem?_eq_none]
    simp only [length_loadRun]
    omega

/-- A load depends only on the places it covers. -/
theorem loadRun_congr {other : Nat → α} {count : Nat}
    (agree : ∀ place, start ≤ place → place < start + count → memory place = other place) :
    loadRun memory start count = loadRun other start count := by
  apply List.map_congr_left
  intro index member
  have inside := List.mem_range.mp member
  exact agree (start + index) (Nat.le_add_right _ _) (Nat.add_lt_add_left inside _)

end Systems
