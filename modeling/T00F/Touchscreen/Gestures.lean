import T00F.Systems.Flags

/-!
# Touchscreen gestures

`TouchscreenGestures.java` switches gestures on and off in a node of the touch driver. The
file helpers and the driver are a parameter: `GestureNode` says what is relied on.
`gestureMode_iff` says after which calls the node has the mode that it should.
-/

namespace T00F.Touchscreen

open Systems

/-- `TouchscreenGesture` -/
structure TouchscreenGesture where
  id : Int
  name : String
  keycode : Int
deriving DecidableEq, Repr

/-- `TOUCHSCREEN_GESTURES` -/
def touchscreenGestures : List TouchscreenGesture :=
  [⟨0, "Letter C", 249⟩, ⟨1, "Letter e", 250⟩, ⟨2, "Letter S", 251⟩, ⟨3, "Letter V", 252⟩,
    ⟨4, "Letter W", 253⟩, ⟨5, "Letter Z", 254⟩]

/-- `KEY_MASK_GESTURE_CONTROL` -/
def keyMaskGestureControl : BitVec 32 := 0x40#32

/-- `ALL_GESTURE_MASKS` -/
def allGestureMasks : List (BitVec 32) := [0x04#32, 0x08#32, 0x10#32, 0x01#32, 0x20#32, 0x02#32]

/-- `ALL_GESTURE_MASKS[id]`; none if the index is out of bounds. -/
def gestureMask (id : Int) : Option (BitVec 32) :=
  if id < 0 then none else allGestureMasks[id.toNat]?

/-- The gestures that `getAvailableGestures` returns have masks. -/
theorem touchscreenGestures_masked :
    ∀ gesture ∈ touchscreenGestures, (gestureMask gesture.id).isSome := by decide

/-! ## Texts -/

/-- The magnitude of a number in base 10; none without digits. -/
def parseMagnitude (text : List Char) : Option Nat :=
  if text ≠ [] ∧ text.all Char.isDigit then some (Nat.ofDigitChars 10 text 0) else none

/-- `Integer.parseInt`; none if it throws. -/
def parseInt (text : List Char) : Option (BitVec 32) :=
  match text with
  | '-' :: text =>
      (parseMagnitude text).bind fun value =>
        if value ≤ 2 ^ 31 then some (-BitVec.ofNat 32 value) else none
  | '+' :: text =>
      (parseMagnitude text).bind fun value =>
        if value < 2 ^ 31 then some (BitVec.ofNat 32 value) else none
  | text =>
      (parseMagnitude text).bind fun value =>
        if value < 2 ^ 31 then some (BitVec.ofNat 32 value) else none

/-- `Integer.toBinaryString` -/
def toBinaryString (value : BitVec 32) : List Char := Nat.toDigits 2 value.toNat

/-- `String.format("%7s", text).replace(' ', '0')` -/
def padded (text : List Char) : List Char :=
  (List.replicate (7 - text.length) ' ' ++ text).map fun char => if char = ' ' then '0' else char

/-- The digits of a binary number of up to 32 bits. -/
structure BinaryText (text : List Char) : Prop where
  nonempty : text ≠ []
  bounded : text.length ≤ 32
  digits : ∀ char ∈ text, char = '0' ∨ char = '1'

/-- The gesture node behind `FileUtils.readOneLine` and `FileUtils.writeLine`: it is read
as a decimal number and written as a binary one. -/
structure GestureNode where
  State : Type
  mode : State → BitVec 32
  readOneLine : State → List Char
  writeLine : State → List Char → Bool × State
  read : ∀ state, readOneLine state = Nat.toDigits 10 (mode state).toNat
  written : ∀ state text, BinaryText text → (writeLine state text).1 = true ∧
    mode (writeLine state text).2 = BitVec.ofNat 32 (Nat.ofDigitChars 2 text 0)

/-- `setGestureEnabled`; none if it throws. -/
def setGestureEnabled (node : GestureNode) (gesture : TouchscreenGesture) (state : Bool)
    (current : node.State) : Option (Bool × node.State) := do
  let gestureMode ← parseInt (node.readOneLine current)
  let mask ← gestureMask gesture.id
  let gestureMode := if state then gestureMode ||| mask else gestureMode &&& ~~~mask
  let gestureMode :=
    if gestureMode ≠ 0#32 then gestureMode ||| keyMaskGestureControl else gestureMode
  some (node.writeLine current (padded (toBinaryString gestureMode)))

/-- Some calls, one after another. A call that throws changes nothing. -/
def runCalls (node : GestureNode) : List (TouchscreenGesture × Bool) → node.State → node.State
  | [], current => current
  | (gesture, state) :: rest, current =>
      match setGestureEnabled node gesture state current with
      | none => runCalls node rest current
      | some (_, next) => runCalls node rest next

/-! ## The mode that should be set -/

/-- The calls leave a gesture enabled: the last one for it did. -/
def enabled (calls : List (TouchscreenGesture × Bool)) (flag : Nat) : Bool :=
  ((calls.filter fun call => call.1.id = (flag : Int)).getLast?.map Prod.snd).getD false

/-- Some gesture is enabled. -/
def AnyEnabled (calls : List (TouchscreenGesture × Bool)) : Prop :=
  ∃ flag < allGestureMasks.length, enabled calls flag = true

/-- Some call has enabled a gesture. -/
def EverEnabled (calls : List (TouchscreenGesture × Bool)) : Prop :=
  ∃ call ∈ calls, (gestureMask call.1.id).isSome ∧ call.2 = true

instance (calls : List (TouchscreenGesture × Bool)) : Decidable (AnyEnabled calls) :=
  inferInstanceAs (Decidable (∃ flag < allGestureMasks.length, enabled calls flag = true))

instance (calls : List (TouchscreenGesture × Bool)) : Decidable (EverEnabled calls) :=
  inferInstanceAs (Decidable (∃ call ∈ calls, (gestureMask call.1.id).isSome ∧ call.2 = true))

/-- The masks of the enabled gestures, and the control bit under a condition. -/
def modeWith (control : Prop) [Decidable control] (calls : List (TouchscreenGesture × Bool)) :
    BitVec 32 :=
  union allGestureMasks (enabled calls) ||| if control then keyMaskGestureControl else 0#32

/-- The masks of the enabled gestures, and the control bit if there are any. -/
def gestureMode (calls : List (TouchscreenGesture × Bool)) : BitVec 32 :=
  modeWith (AnyEnabled calls) calls

/-! ## What a call writes -/

/-- Binary digits are `0` and `1`. -/
theorem toDigits_binary (value : Nat) : ∀ char ∈ Nat.toDigits 2 value, char = '0' ∨ char = '1' := by
  induction value using Nat.strong_induction_on with
  | _ value ih =>
      intro char member
      rw [Nat.toDigits_eq_if (by decide)] at member
      have bit : ∀ digit < 2, digit.digitChar = '0' ∨ digit.digitChar = '1' := by decide
      split at member
      next small =>
        rw [List.mem_singleton.mp member]
        exact bit value small
      next large =>
        rcases List.mem_append.mp member with front | last
        · exact ih (value / 2) (by omega) char front
        · rw [List.mem_singleton.mp last]
          exact bit (value % 2) (by omega)

/-- Padding adds zeros in front of the digits. -/
theorem padded_toBinaryString (value : BitVec 32) : padded (toBinaryString value) =
    List.replicate (7 - (toBinaryString value).length) '0' ++ toBinaryString value := by
  have digits : (toBinaryString value).map (fun char => if char = ' ' then '0' else char) =
      (toBinaryString value).map id := by
    apply List.map_congr_left
    intro char member
    rcases toDigits_binary value.toNat char member with rfl | rfl
    · rfl
    · rfl
  rw [padded, List.map_append, digits, List.map_id, List.map_replicate, if_pos rfl]

/-- What is written is a binary number with the value of the mode. -/
theorem padded_binaryText (value : BitVec 32) : BinaryText (padded (toBinaryString value)) where
  nonempty := by
    rw [padded_toBinaryString]
    exact List.append_ne_nil_of_right_ne_nil _ Nat.toDigits_ne_nil
  bounded := by
    have digits : (toBinaryString value).length ≤ 32 :=
      (Nat.length_toDigits_le_iff (by decide) (by decide)).mpr value.isLt
    rw [padded_toBinaryString, List.length_append, List.length_replicate]
    omega
  digits char member := by
    rw [padded_toBinaryString] at member
    rcases List.mem_append.mp member with zero | digit
    · exact Or.inl (List.eq_of_mem_replicate zero)
    · exact toDigits_binary value.toNat char digit

/-- The padded digits read back as the value. -/
theorem ofDigitChars_padded (value : BitVec 32) :
    BitVec.ofNat 32 (Nat.ofDigitChars 2 (padded (toBinaryString value)) 0) = value := by
  rw [padded_toBinaryString, Nat.ofDigitChars_append, Nat.ofDigitChars_replicate_zero,
    Nat.mul_zero, toBinaryString, Nat.ofDigitChars_toDigits (by decide) (by decide),
    BitVec.ofNat_toNat, BitVec.setWidth_eq]

/-- The decimal text of a mode without sign bit is read back. -/
theorem parseInt_toDigits {value : BitVec 32} (small : value.msb = false) :
    parseInt (Nat.toDigits 10 value.toNat) = some value := by
  have bound : value.toNat < 2 ^ 31 := by
    have double := BitVec.msb_eq_false_iff_two_mul_lt.mp small
    omega
  have digits : ∀ char ∈ Nat.toDigits 10 value.toNat, char.isDigit = true := fun char member =>
    Nat.isDigit_of_mem_toDigits (by decide) (by decide) member
  have magnitude : parseMagnitude (Nat.toDigits 10 value.toNat) = some value.toNat := by
    rw [parseMagnitude, if_pos ⟨Nat.toDigits_ne_nil, List.all_eq_true.mpr digits⟩,
      Nat.ofDigitChars_ten_toDigits]
  unfold parseInt
  split
  next rest text =>
    rw [text] at digits
    exact absurd (digits '-' List.mem_cons_self) (by decide)
  next rest text =>
    rw [text] at digits
    exact absurd (digits '+' List.mem_cons_self) (by decide)
  next =>
    rw [magnitude, Option.bind_some, if_pos bound, BitVec.ofNat_toNat, BitVec.setWidth_eq]

variable {node : GestureNode} {current : node.State} {gesture : TouchscreenGesture}

/-- A call that does not throw writes the new mode. -/
theorem setGestureEnabled_mode {mask : BitVec 32} (known : gestureMask gesture.id = some mask)
    (small : (node.mode current).msb = false) (state : Bool) :
    let gestureMode :=
      if state then node.mode current ||| mask else node.mode current &&& ~~~mask
    ∃ next, setGestureEnabled node gesture state current = some (true, next) ∧
      node.mode next =
        if gestureMode ≠ 0#32 then gestureMode ||| keyMaskGestureControl else gestureMode := by
  intro gestureMode
  have read : parseInt (node.readOneLine current) = some (node.mode current) := by
    rw [node.read, parseInt_toDigits small]
  let written :=
    if gestureMode ≠ 0#32 then gestureMode ||| keyMaskGestureControl else gestureMode
  obtain ⟨succeeds, mode⟩ := node.written current _ (padded_binaryText written)
  rw [ofDigitChars_padded] at mode
  refine ⟨_, ?_, mode⟩
  simp only [setGestureEnabled, read, known, Option.bind_eq_bind, Option.bind_some]
  exact congrArg some (Prod.ext succeeds rfl)

/-- For the gestures that `getAvailableGestures` returns no call throws. -/
theorem setGestureEnabled_available (available : gesture ∈ touchscreenGestures)
    (small : (node.mode current).msb = false) (state : Bool) :
    ∃ next, setGestureEnabled node gesture state current = some (true, next) := by
  obtain ⟨mask, known⟩ := Option.isSome_iff_exists.mp (touchscreenGestures_masked gesture available)
  obtain ⟨next, called, -⟩ := setGestureEnabled_mode known small state
  exact ⟨next, called⟩

/-- With any other id it does. -/
theorem setGestureEnabled_throws (unknown : gestureMask gesture.id = none) (state : Bool) :
    setGestureEnabled node gesture state current = none := by
  simp only [setGestureEnabled, unknown, Option.bind_eq_bind, Option.bind_none]
  cases parseInt (node.readOneLine current) with
  | none => rfl
  | some mode => rfl

/-! ## Sequences of calls -/

/-- The last call decides the gesture it is about. -/
theorem enabled_concat (calls : List (TouchscreenGesture × Bool)) (gesture : TouchscreenGesture)
    (state : Bool) (flag : Nat) :
    enabled (calls ++ [(gesture, state)]) flag =
      if gesture.id = flag then state else enabled calls flag := by
  by_cases same : gesture.id = flag
  · simp [enabled, same]
  · simp [enabled, same]

/-- A known id is an index into the mask table. -/
theorem gestureMask_eq_some {id : Int} {mask : BitVec 32} (known : gestureMask id = some mask) :
    ∃ flag : Nat, id = flag ∧ allGestureMasks[flag]? = some mask := by
  unfold gestureMask at known
  split at known
  next => cases known
  next positive => exact ⟨id.toNat, by omega, known⟩

/-- An unknown id is no index into the mask table. -/
theorem gestureMask_eq_none {id : Int} (unknown : gestureMask id = none) {flag : Nat}
    (inside : flag < allGestureMasks.length) : id ≠ flag := by
  rintro rfl
  rw [gestureMask, if_neg (by omega), Int.toNat_natCast, List.getElem?_eq_none_iff] at unknown
  omega

/-- One more call updates the flag of its own gesture. -/
theorem enabled_known {calls : List (TouchscreenGesture × Bool)} {flag : Nat}
    (known : gesture.id = flag) (state : Bool) :
    enabled (calls ++ [(gesture, state)]) = Function.update (enabled calls) flag state := by
  funext other
  rw [enabled_concat, known, Function.update_apply]
  simp only [Nat.cast_inj, eq_comm]

/-- A run with one more call is that call on the state the run leaves. -/
theorem runCalls_concat (calls : List (TouchscreenGesture × Bool)) (gesture : TouchscreenGesture)
    (state : Bool) (start : node.State) :
    runCalls node (calls ++ [(gesture, state)]) start =
      match setGestureEnabled node gesture state (runCalls node calls start) with
      | none => runCalls node calls start
      | some (_, next) => next := by
  induction calls generalizing start with
  | nil => rfl
  | cons call rest ih =>
      obtain ⟨first, on⟩ := call
      rw [List.cons_append, runCalls, runCalls]
      cases setGestureEnabled node first on start with
      | none => exact ih start
      | some written => exact ih written.2

/-- Every mask has a bit. -/
theorem masks_nonzero : ∀ mask ∈ allGestureMasks, mask ≠ BitVec.ofNat 32 0 := by
  simp [allGestureMasks]

/-- No two masks share a bit. -/
theorem masks_disjoint :
    allGestureMasks.Pairwise fun first second => first &&& second = BitVec.ofNat 32 0 := by
  simp [allGestureMasks]

/-- The control bit is in no mask. -/
theorem masks_control :
    ∀ mask ∈ allGestureMasks, keyMaskGestureControl &&& mask = BitVec.ofNat 32 0 := by
  simp [allGestureMasks, keyMaskGestureControl]

/-- No mask has the sign bit. -/
theorem masks_msb : ∀ mask ∈ allGestureMasks, mask.msb = false := by
  simp [allGestureMasks, BitVec.msb_eq_decide]

/-- Without a call that has enabled a gesture, none is enabled. -/
theorem everEnabled_of_anyEnabled {calls : List (TouchscreenGesture × Bool)}
    (any : AnyEnabled calls) : EverEnabled calls := by
  obtain ⟨flag, inside, on⟩ := any
  rw [enabled] at on
  cases last : (calls.filter fun call => call.1.id = (flag : Int)).getLast? with
  | none =>
      rw [last] at on
      cases on
  | some call =>
      rw [last] at on
      obtain ⟨member, same⟩ := List.mem_filter.mp (List.mem_of_getLast? last)
      rw [decide_eq_true_eq] at same
      refine ⟨call, member, ?_, on⟩
      rw [same, gestureMask, if_neg (by omega), Int.toNat_natCast,
        List.getElem?_eq_getElem inside]
      rfl

/-- The mode written is never negative. -/
theorem modeWith_msb (control : Prop) [Decidable control]
    (calls : List (TouchscreenGesture × Bool)) : (modeWith control calls).msb = false := by
  rw [modeWith, BitVec.msb_or, union_msb masks_msb, Bool.false_or]
  split <;> rfl

/-- With no gesture enabled the union of the masks is zero. -/
theorem union_eq_zero_of_not_any {calls : List (TouchscreenGesture × Bool)}
    (none : ¬ AnyEnabled calls) : union allGestureMasks (enabled calls) = 0#32 := by
  rw [union_eq_zero masks_nonzero]
  intro flag inside
  by_contra on
  rw [Bool.not_eq_false] at on
  exact none ⟨flag, inside, on⟩

/-- Enabling a gesture adds its mask and sets the control bit. -/
theorem mode_enable {calls : List (TouchscreenGesture × Bool)} {flag : Nat} {mask : BitVec 32}
    (known : gesture.id = flag) (found : allGestureMasks[flag]? = some mask) (control : Prop)
    [Decidable control] :
    modeWith control calls ||| mask ≠ 0#32 ∧
      (modeWith control calls ||| mask) ||| keyMaskGestureControl =
        modeWith True (calls ++ [(gesture, true)]) := by
  have nonzero := masks_nonzero mask (List.mem_of_getElem? found)
  constructor
  · intro empty
    exact nonzero (BitVec.or_eq_zero_iff.mp empty).2
  · rw [modeWith, modeWith, enabled_known known, union_enable found, if_pos trivial]
    ext bit inside
    simp only [BitVec.getElem_or]
    split
    · cases (union allGestureMasks (enabled calls))[bit] <;> cases keyMaskGestureControl[bit] <;>
        cases mask[bit] <;> rfl
    · simp

/-- Disabling a gesture removes its mask and keeps the control bit. -/
theorem mode_disable {calls : List (TouchscreenGesture × Bool)} {flag : Nat} {mask : BitVec 32}
    (known : gesture.id = flag) (found : allGestureMasks[flag]? = some mask) (control : Prop)
    [Decidable control] :
    modeWith control calls &&& ~~~mask = modeWith control (calls ++ [(gesture, false)]) := by
  have apart := and_not_of_disjoint (masks_control mask (List.mem_of_getElem? found))
  rw [modeWith, modeWith, enabled_known known, union_disable masks_disjoint found,
    BitVec.and_or_distrib_right]
  split
  · rw [apart]
  · simp

/-- A gesture was ever enabled before the last call or by it. -/
theorem everEnabled_concat (calls : List (TouchscreenGesture × Bool))
    (gesture : TouchscreenGesture) (state : Bool) :
    EverEnabled (calls ++ [(gesture, state)]) ↔
      EverEnabled calls ∨ ((gestureMask gesture.id).isSome ∧ state = true) := by
  simp only [EverEnabled, List.mem_append, List.mem_singleton, or_and_right, exists_or,
    exists_eq_left]

/-- The mode depends only on the control bit and the flags of the table. -/
theorem modeWith_congr {control other : Prop} [Decidable control] [Decidable other]
    {calls others : List (TouchscreenGesture × Bool)} (same : control ↔ other)
    (agree : ∀ flag < allGestureMasks.length, enabled calls flag = enabled others flag) :
    modeWith control calls = modeWith other others := by
  rw [modeWith, modeWith, union_congr agree, if_congr same rfl rfl]

/-- Once a gesture was enabled, the test of a later call finds the control bit. -/
theorem mode_control {calls : List (TouchscreenGesture × Bool)} :
    (if modeWith (EverEnabled calls) calls ≠ 0#32 then
        modeWith (EverEnabled calls) calls ||| keyMaskGestureControl
      else modeWith (EverEnabled calls) calls) = modeWith (EverEnabled calls) calls := by
  by_cases ever : EverEnabled calls
  · have again : modeWith (EverEnabled calls) calls ||| keyMaskGestureControl =
        modeWith (EverEnabled calls) calls := by
      rw [modeWith, if_pos ever, BitVec.or_assoc, BitVec.or_self]
    rw [again]
    exact ite_self _
  · have none : ¬ AnyEnabled calls := mt everEnabled_of_anyEnabled ever
    have empty : modeWith (EverEnabled calls) calls = 0#32 := by
      rw [modeWith, if_neg ever, union_eq_zero_of_not_any none, BitVec.or_self]
    rw [empty, if_neg (not_not.mpr rfl)]

/-- After any calls the node has the masks of the enabled gestures, and the control bit
once one was enabled. -/
theorem runCalls_mode {start : node.State} (zero : node.mode start = 0#32)
    (calls : List (TouchscreenGesture × Bool)) :
    node.mode (runCalls node calls start) = modeWith (EverEnabled calls) calls := by
  induction calls using List.reverseRecOn with
  | nil => exact zero
  | append_singleton calls call ih =>
      obtain ⟨gesture, state⟩ := call
      have concat := everEnabled_concat calls gesture state
      rw [runCalls_concat]
      cases known : gestureMask gesture.id with
      | none =>
          rw [setGestureEnabled_throws known, ih]
          apply modeWith_congr
          · simp [concat, known]
          · intro flag inside
            rw [enabled_concat, if_neg (gestureMask_eq_none known inside)]
      | some mask =>
          obtain ⟨flag, id, found⟩ := gestureMask_eq_some known
          obtain ⟨next, ran, mode⟩ := setGestureEnabled_mode known
            (by rw [ih]; exact modeWith_msb _ calls) state
          rw [ran]
          dsimp only at mode ⊢
          rw [mode, ih]
          cases state with
          | true =>
              obtain ⟨nonzero, enables⟩ := mode_enable id found (EverEnabled calls)
              rw [if_pos rfl, if_pos nonzero, enables]
              exact modeWith_congr (by simp [concat, known]) fun _ _ => rfl
          | false =>
              have kept : modeWith (EverEnabled calls) (calls ++ [(gesture, false)]) =
                  modeWith (EverEnabled (calls ++ [(gesture, false)]))
                    (calls ++ [(gesture, false)]) :=
                modeWith_congr (by simp [concat]) fun _ _ => rfl
              simp only [Bool.false_eq_true, if_false]
              rw [mode_disable id found, kept]
              exact mode_control

/-- After any calls the node has the mode that it should exactly if a gesture is enabled or
none ever was. -/
theorem gestureMode_iff {start : node.State} (zero : node.mode start = 0#32)
    (calls : List (TouchscreenGesture × Bool)) :
    node.mode (runCalls node calls start) = gestureMode calls ↔
      AnyEnabled calls ∨ ¬ EverEnabled calls := by
  rw [runCalls_mode zero, gestureMode]
  by_cases any : AnyEnabled calls
  · have ever := everEnabled_of_anyEnabled any
    exact iff_of_true (modeWith_congr (by simp [any, ever]) fun _ _ => rfl) (Or.inl any)
  · by_cases ever : EverEnabled calls
    · refine iff_of_false (fun same => ?_) (by simp [any, ever])
      rw [modeWith, modeWith, if_pos ever, if_neg any, union_eq_zero_of_not_any any] at same
      exact absurd same (by decide)
    · exact iff_of_true (modeWith_congr (by simp [any, ever]) fun _ _ => rfl) (Or.inr ever)

/-- A node that stores the number that is written. -/
def storingNode : GestureNode where
  State := BitVec 32
  mode state := state
  readOneLine state := Nat.toDigits 10 state.toNat
  writeLine _ text := (true, BitVec.ofNat 32 (Nat.ofDigitChars 2 text 0))
  read _ := rfl
  written _ _ _ := ⟨rfl, rfl⟩

theorem gestureMode_letterC :
    storingNode.mode (runCalls storingNode [(⟨0, "Letter C", 249⟩, true)] 0#32) =
        gestureMode [(⟨0, "Letter C", 249⟩, true)] ↔
      AnyEnabled [(⟨0, "Letter C", 249⟩, true)] ∨ ¬ EverEnabled [(⟨0, "Letter C", 249⟩, true)] :=
  gestureMode_iff rfl _

/-- A gesture is enabled and disabled again; the control bit stays. -/
theorem gestureMode_disabled :
    storingNode.mode (runCalls storingNode
        [(⟨0, "Letter C", 249⟩, true), (⟨0, "Letter C", 249⟩, false)] 0#32) ≠
      gestureMode [(⟨0, "Letter C", 249⟩, true), (⟨0, "Letter C", 249⟩, false)] := by
  have zero : storingNode.mode 0#32 = 0#32 := rfl
  rw [runCalls_mode zero]
  decide

end T00F.Touchscreen
