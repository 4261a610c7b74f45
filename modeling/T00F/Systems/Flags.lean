import Mathlib

/-!
# Sets of flags

The union of the flags that are enabled, for any list of bit masks of one width.
`union_enable` and `union_disable` say how a single flag is set and cleared.
-/

namespace Systems

variable {width : Nat}

/-- The masks of the enabled flags, joined. -/
def union : List (BitVec width) → (Nat → Bool) → BitVec width
  | [], _ => BitVec.ofNat width 0
  | mask :: rest, enabled =>
      (if enabled 0 then mask else BitVec.ofNat width 0) ||| union rest fun index => enabled (index + 1)

/-- Setting a later flag of the tail is setting it in the tail's own numbering. -/
theorem update_succ (enabled : Nat → Bool) (flag : Nat) (state : Bool) :
    (fun index => Function.update enabled (flag + 1) state (index + 1)) =
      Function.update (fun index => enabled (index + 1)) flag state := by
  funext index
  simp [Function.update_apply]

/-- Setting the first flag does not change those of the tail. -/
theorem update_zero (enabled : Nat → Bool) (state : Bool) :
    (fun index => Function.update enabled 0 state (index + 1)) = fun index => enabled (index + 1) := by
  funext index
  simp

variable {masks : List (BitVec width)} {flag : Nat} {mask : BitVec width}

/-- The union depends only on the flags that have a mask. -/
theorem union_congr {enabled other : Nat → Bool}
    (agree : ∀ flag < masks.length, enabled flag = other flag) :
    union masks enabled = union masks other := by
  induction masks generalizing enabled other with
  | nil => rfl
  | cons first rest ih =>
      have later := ih fun flag inside => agree (flag + 1) (Nat.succ_lt_succ inside)
      rw [union, union, later, agree 0 (Nat.succ_pos _)]

/-- Enabling a flag adds its mask to the union. -/
theorem union_enable (found : masks[flag]? = some mask) (enabled : Nat → Bool) :
    union masks (Function.update enabled flag true) = union masks enabled ||| mask := by
  induction masks generalizing flag enabled with
  | nil => cases found
  | cons first rest ih =>
      cases flag with
      | zero =>
          cases found
          rw [union, union, update_zero, Function.update_self, if_pos rfl]
          cases enabled 0 with
          | false => simp [BitVec.or_comm]
          | true => rw [if_pos rfl, BitVec.or_comm mask, BitVec.or_assoc, BitVec.or_self]
      | succ flag =>
          have other : Function.update enabled (flag + 1) true 0 = enabled 0 := by simp
          rw [union, union, update_succ, ih found, other, BitVec.or_assoc]

/-- No enabled flag has a bit of a mask that is disjoint from all of them. -/
theorem union_disjoint (disjoint : ∀ other ∈ masks, other &&& mask = BitVec.ofNat width 0)
    (enabled : Nat → Bool) : union masks enabled &&& mask = BitVec.ofNat width 0 := by
  induction masks generalizing enabled with
  | nil => simp [union]
  | cons first rest ih =>
      obtain ⟨here, later⟩ := List.forall_mem_cons.mp disjoint
      rw [union, BitVec.and_or_distrib_right, ih later]
      cases enabled 0 with
      | false => simp
      | true => simpa using here

/-- Clearing bits that are not set changes nothing. -/
theorem and_not_of_disjoint {flags : BitVec width}
    (disjoint : flags &&& mask = BitVec.ofNat width 0) : flags &&& ~~~mask = flags := by
  ext bit inside
  have both := congrArg (fun word => word[bit]) disjoint
  simp only [BitVec.getElem_and, BitVec.getElem_not] at both ⊢
  cases here : flags[bit] with
  | false => simp
  | true => simpa [here] using both

/-- With disjoint masks, disabling a flag takes exactly its mask out of the union. -/
theorem union_disable
    (disjoint : masks.Pairwise fun first second => first &&& second = BitVec.ofNat width 0)
    (found : masks[flag]? = some mask) (enabled : Nat → Bool) :
    union masks (Function.update enabled flag false) = union masks enabled &&& ~~~mask := by
  induction masks generalizing flag enabled with
  | nil => cases found
  | cons first rest ih =>
      obtain ⟨apart, later⟩ := List.pairwise_cons.mp disjoint
      cases flag with
      | zero =>
          cases found
          have others := union_disjoint (fun other member => by
            rw [BitVec.and_comm]
            exact apart other member) fun index => enabled (index + 1)
          rw [union, union, update_zero, Function.update_self, BitVec.and_or_distrib_right,
            and_not_of_disjoint others]
          cases enabled 0 <;> simp
      | succ flag =>
          have other : Function.update enabled (flag + 1) false 0 = enabled 0 := by simp
          have untouched : (if enabled 0 then first else BitVec.ofNat width 0) &&& ~~~mask =
              if enabled 0 then first else BitVec.ofNat width 0 := by
            apply and_not_of_disjoint
            cases enabled 0 with
            | false => simp
            | true => simpa using apart mask (List.mem_of_getElem? found)
          rw [union, union, update_succ, ih later found, other, BitVec.and_or_distrib_right,
            untouched]

/-- A union of masks without the sign bit has no sign bit. -/
theorem union_msb (positive : ∀ mask ∈ masks, mask.msb = false) (enabled : Nat → Bool) :
    (union masks enabled).msb = false := by
  induction masks generalizing enabled with
  | nil => simp [union]
  | cons first rest ih =>
      obtain ⟨here, later⟩ := List.forall_mem_cons.mp positive
      rw [union, BitVec.msb_or, ih later, Bool.or_false]
      cases enabled 0 with
      | false => simp
      | true => exact here

/-- No flag is enabled if their union is empty. -/
theorem union_eq_zero (nonzero : ∀ mask ∈ masks, mask ≠ BitVec.ofNat width 0)
    (enabled : Nat → Bool) :
    union masks enabled = BitVec.ofNat width 0 ↔ ∀ flag < masks.length, enabled flag = false := by
  induction masks generalizing enabled with
  | nil => simp [union]
  | cons first rest ih =>
      obtain ⟨here, later⟩ := List.forall_mem_cons.mp nonzero
      rw [union, BitVec.or_eq_zero_iff, ih later]
      constructor
      · rintro ⟨empty, others⟩ flag inside
        cases flag with
        | zero =>
            by_contra on
            rw [Bool.not_eq_false] at on
            rw [on, if_pos rfl] at empty
            exact here empty
        | succ flag => exact others flag (Nat.lt_of_succ_lt_succ inside)
      · intro off
        refine ⟨by rw [off 0 (Nat.succ_pos _)]; rfl, fun flag inside => ?_⟩
        exact off (flag + 1) (Nat.succ_lt_succ inside)

end Systems
