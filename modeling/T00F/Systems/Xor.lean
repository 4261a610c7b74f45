import T00F.Systems.Word

/-!
# Exclusive-or checksums

The fold behind every checksum of the device. A checksum field is *sealed* by
clearing it, folding its whole range, and storing the fold: `xorRange_seal`
says that the range then folds to zero, and `xorRange_unseal` that a range
which folds to zero already holds the value that sealing would store.
-/

namespace Systems

variable {width : Nat}

/-- The exclusive or of `f 0` up to `f (count - 1)`. -/
def xorRange (f : Nat → BitVec width) : Nat → BitVec width
  | 0 => BitVec.ofNat width 0
  | count + 1 => xorRange f count ^^^ f count

@[simp] theorem xorRange_zero (f : Nat → BitVec width) : xorRange f 0 = BitVec.ofNat width 0 := rfl

theorem xorRange_succ (f : Nat → BitVec width) (count : Nat) :
    xorRange f (count + 1) = xorRange f count ^^^ f count := rfl

/-- The fold only depends on the terms of its range. -/
theorem xorRange_congr {f g : Nat → BitVec width} {count : Nat}
    (agree : ∀ index < count, f index = g index) : xorRange f count = xorRange g count := by
  induction count with
  | zero => rfl
  | succ count ih =>
      rw [xorRange_succ, xorRange_succ, agree count (Nat.lt_succ_self count),
        ih fun index bound => agree index (Nat.lt_succ_of_lt bound)]

theorem xorRange_of_zero {f : Nat → BitVec width} {count : Nat}
    (zero : ∀ index < count, f index = BitVec.ofNat width 0) :
    xorRange f count = BitVec.ofNat width 0 := by
  induction count with
  | zero => rfl
  | succ count ih =>
      rw [xorRange_succ, zero count (Nat.lt_succ_self count),
        ih fun index bound => zero index (Nat.lt_succ_of_lt bound), BitVec.xor_self]

/-- Changing one term changes the fold by the difference of the two values. -/
theorem xorRange_change {f g : Nat → BitVec width} {count place : Nat} (inside : place < count)
    (agree : ∀ index < count, index ≠ place → g index = f index) :
    xorRange g count = xorRange f count ^^^ (f place ^^^ g place) := by
  induction count with
  | zero => omega
  | succ count ih =>
      by_cases last : place = count
      · have before : xorRange g count = xorRange f count :=
          xorRange_congr fun index bound => agree index (by omega) (by omega)
        have cancel : f count ^^^ (f count ^^^ g count) = g count := by
          rw [← BitVec.xor_assoc, BitVec.xor_self, BitVec.zero_xor]
        rw [xorRange_succ, xorRange_succ, before, last, BitVec.xor_assoc, cancel]
      · have before := ih (by omega) fun index bound => agree index (by omega)
        rw [xorRange_succ, xorRange_succ, before, agree count (by omega) (by omega)]
        ac_rfl

/-- The fold sees every change of a single term. -/
theorem xorRange_change_eq_iff {f g : Nat → BitVec width} {count place : Nat}
    (inside : place < count) (agree : ∀ index < count, index ≠ place → g index = f index) :
    xorRange g count = xorRange f count ↔ g place = f place := by
  rw [xorRange_change inside agree]
  constructor
  · intro same
    have difference : f place ^^^ g place = BitVec.ofNat width 0 := by
      rw [← BitVec.xor_right_inj (xorRange f count), same, BitVec.xor_zero]
    exact (BitVec.xor_eq_zero_iff.mp difference).symm
  · intro same
    rw [same, BitVec.xor_self, BitVec.xor_zero]

/-- Storing the fold of a range with a cleared field into that field makes the
whole range fold to zero. -/
theorem xorRange_seal {f g : Nat → BitVec width} {count : Nat} (place : Nat)
    (inside : place < count) (agree : ∀ index < count, index ≠ place → g index = f index)
    (cleared : f place = BitVec.ofNat width 0) (stored : g place = xorRange f count) :
    xorRange g count = BitVec.ofNat width 0 := by
  rw [xorRange_change inside agree, cleared, stored]
  simp

/-- Clearing a field of a range that folds to zero leaves exactly that field as
the fold of the rest. -/
theorem xorRange_unseal {f g : Nat → BitVec width} {count : Nat} (place : Nat)
    (inside : place < count) (agree : ∀ index < count, index ≠ place → g index = f index)
    (cleared : g place = BitVec.ofNat width 0) (closed : xorRange f count = BitVec.ofNat width 0) :
    xorRange g count = f place := by
  rw [xorRange_change inside agree, cleared, closed]
  simp

/-- The fold of two adjacent ranges. -/
theorem xorRange_add (f : Nat → BitVec width) (start count : Nat) :
    xorRange f (start + count) =
      xorRange f start ^^^ xorRange (fun index => f (start + index)) count := by
  induction count with
  | zero => simp
  | succ count ih => rw [← Nat.add_assoc, xorRange_succ, ih, xorRange_succ, BitVec.xor_assoc]

/-- A fold over `count` groups of `group` terms. -/
theorem xorRange_mul (f : Nat → BitVec width) (group count : Nat) :
    xorRange f (group * count) =
      xorRange (fun index => xorRange (fun term => f (group * index + term)) group) count := by
  induction count with
  | zero => simp
  | succ count ih => rw [Nat.mul_succ, xorRange_add, ih, xorRange_succ]

/-- A loop over the indices of a range. -/
theorem foldl_xor_range' (f : Nat → BitVec width) (init : BitVec width) (start count : Nat) :
    (List.range' start count).foldl (fun sum index => sum ^^^ f index) init =
      init ^^^ xorRange (fun index => f (start + index)) count := by
  induction count with
  | zero => simp
  | succ count ih =>
      rw [List.range'_concat, List.foldl_append, ih, Nat.one_mul, List.foldl_cons, List.foldl_nil,
        xorRange_succ, BitVec.xor_assoc]

/-- A loop over the elements of a list. -/
theorem foldl_xor (list : List (BitVec width)) (init : BitVec width) :
    list.foldl (fun sum element => sum ^^^ element) init =
      init ^^^ xorRange (fun index => list.getD index (BitVec.ofNat width 0)) list.length := by
  induction list using List.reverseRecOn with
  | nil => simp
  | append_singleton front last ih =>
      have behind : (front ++ [last]).getD front.length (BitVec.ofNat width 0) = last := by simp
      have inside : xorRange (fun index => (front ++ [last]).getD index (BitVec.ofNat width 0))
          front.length =
          xorRange (fun index => front.getD index (BitVec.ofNat width 0)) front.length :=
        xorRange_congr fun index bound => List.getD_append _ _ _ _ bound
      rw [List.foldl_append, ih, List.foldl_cons, List.foldl_nil, List.length_append,
        List.length_singleton, xorRange_succ, behind, inside, BitVec.xor_assoc]

end Systems
