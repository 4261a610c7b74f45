import Mathlib

/-!
# The `int` of C

`Int32` as the `int` of the device. Where a result fits, the operations are those
of the integers (`toInt_add_of_fits`, `toInt_sub_of_fits`); where it does not, it
wraps. The remainder has the sign of the dividend and none exists for zero.
-/

namespace Systems

variable {a b : Int32}

/-- A sum that fits does not wrap. -/
theorem toInt_add_of_fits (low : -2 ^ 31 ≤ a.toInt + b.toInt) (high : a.toInt + b.toInt < 2 ^ 31) :
    (a + b).toInt = a.toInt + b.toInt := by
  rw [Int32.toInt_add]
  exact Int.bmod_eq_of_le (by omega) (by omega)

/-- A difference that fits does not wrap. -/
theorem toInt_sub_of_fits (low : -2 ^ 31 ≤ a.toInt - b.toInt) (high : a.toInt - b.toInt < 2 ^ 31) :
    (a - b).toInt = a.toInt - b.toInt := by
  rw [Int32.toInt_sub]
  exact Int.bmod_eq_of_le (by omega) (by omega)

/-- Counting up below the largest value does not wrap. -/
theorem toInt_succ_of_lt (bound : a.toInt < 2 ^ 31 - 1) : (a + 1).toInt = a.toInt + 1 :=
  toInt_add_of_fits (by have := a.le_toInt; rw [Int32.toInt_one]; omega)
    (by rw [Int32.toInt_one]; omega)

/-- Counting down above the smallest value does not wrap. -/
theorem toInt_pred_of_lt (bound : -2 ^ 31 < a.toInt) : (a - 1).toInt = a.toInt - 1 :=
  toInt_sub_of_fits (by rw [Int32.toInt_one]; omega)
    (by have := a.toInt_lt; rw [Int32.toInt_one]; omega)

/-- `a % b`, which has no value for `b = 0`. -/
def remainder (a b : Int32) : Option Int32 := if b = 0 then none else some (a % b)

/-- For a nonnegative dividend and a positive divisor, `%` is the mathematical remainder. -/
theorem remainder_of_pos (nonneg : 0 ≤ a.toInt) (positive : 0 < b.toInt) :
    ∃ rest, remainder a b = some rest ∧ rest.toInt = a.toInt % b.toInt := by
  have nonzero : b ≠ 0 := by
    rintro rfl
    exact absurd positive (by decide)
  refine ⟨a % b, if_neg nonzero, ?_⟩
  rw [Int32.toInt_mod, Int.tmod_eq_emod_of_nonneg nonneg]

/-- The natural number that a nonnegative `int` is. -/
theorem toNatClampNeg_cast (nonneg : 0 ≤ a.toInt) : (a.toNatClampNeg : Int) = a.toInt :=
  Int.toNat_of_nonneg nonneg

end Systems
