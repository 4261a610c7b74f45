import T00F.Mkbootimg.OsipHeader

/-!
# Changing the type of an image

Any sequence of `FixOsipHeader` calls on one image. The type is overwritten, the sign
bit survives and the checksum is computed anew, so that only the last call counts:
`fixOsipHeader_last`.
-/

namespace Systems

/-! ## Updates that overwrite each other -/

universe u v

variable {State : Type u} {Value : Type v}

/-- Each update replaces what the update before it has set, and which values are refused
does not depend on the value. -/
structure Overwrites (update : State → Value → Option State) : Prop where
  refused : ∀ {state value}, update state value = none → ∀ next, update state next = none
  replaced : ∀ {state value updated}, update state value = some updated →
    ∀ next, update updated next = update state next

/-- The last update does what it would have done to the state before all of them. -/
theorem Overwrites.foldlM {update : State → Value → Option State} (overwrites : Overwrites update)
    (front : List Value) (last : Value) (state : State) :
    (front ++ [last]).foldlM update state = update state last := by
  induction front generalizing state with
  | nil => simp
  | cons value front ih =>
      rw [List.cons_append, List.foldlM_cons]
      cases run : update state value with
      | none => exact (overwrites.refused run last).symm
      | some updated => exact (ih updated).trans (overwrites.replaced run last)

end Systems

namespace T00F.Mkbootimg

open Systems

/-! ## One type after the other -/

/-- `FixOsipHeader` with one type after the other. -/
def fixOsipHeaders (data : List Byte) (ostypes : List OsType) : Option (List Byte) :=
  ostypes.foldlM fixOsipHeader data

/-- The fix fails exactly on fewer than 224 bytes. -/
theorem fixOsipHeader_eq_none {data : List Byte} {ostype : OsType} :
    fixOsipHeader data ostype = none ↔ data.length < 224 := by
  unfold fixOsipHeader
  simp

/-- What a call has set is gone as soon as the next one has cleared the header. -/
theorem clearedHeader_fixed {data fixed : List Byte} {ostype : OsType}
    (run : fixOsipHeader data ostype = some fixed) (next : OsType) :
    clearedHeader fixed next = clearedHeader data next := by
  have places : osipCrcOffset ≠ osipAttributeOffset := by decide
  rw [clearedHeader, osipAttribute_fixed ostype run next, clearedHeader]
  obtain ⟨_, rfl⟩ := (fixOsipHeader_eq_some ostype).mp run
  rw [clearedHeader, List.set_set, List.set_comm _ _ places, List.set_set, List.set_set]

/-- A later fix overwrites what an earlier one set. -/
theorem fixOsipHeader_overwrites : Overwrites fixOsipHeader where
  refused short _ := fixOsipHeader_eq_none.mpr (fixOsipHeader_eq_none.mp short)
  replaced := by
    intro data ostype fixed run next
    have length := length_fixOsipHeader ostype run
    rw [fixOsipHeader, fixOsipHeader, length, clearedHeader_fixed run next]

/-- A type leaves the low bit to the sign. -/
theorem attribute_bits (ostype : OsType) (signAttr : Byte) :
    (ostype.attribute + (signAttr &&& 0x01#8)) &&& 0xfe#8 = ostype.attribute ∧
      (ostype.attribute + (signAttr &&& 0x01#8)) &&& 0x01#8 = signAttr &&& 0x01#8 := by
  revert signAttr
  cases ostype <;> decide

/-- A sequence of calls is its last call: it changes two bytes at most, sets the type
beside the sign bit of the original and makes the header fold to zero. -/
theorem fixOsipHeader_last {data : List Byte} (room : 224 ≤ data.length) {ostypes : List OsType}
    {last : OsType} (isLast : ostypes.getLast? = some last) :
    ∃ fixed, fixOsipHeaders data ostypes = some fixed ∧ fixOsipHeader data last = some fixed ∧
      fixed.length = data.length ∧
      (∀ index, index ≠ osipCrcOffset → index ≠ osipAttributeOffset →
        fixed[index]? = data[index]?) ∧
      fixed.getD osipAttributeOffset 0#8 &&& 0xfe#8 = last.attribute ∧
      fixed.getD osipAttributeOffset 0#8 &&& 0x01#8 =
        data.getD osipAttributeOffset 0#8 &&& 0x01#8 ∧
      FoldsToZero fixed 224 := by
  obtain ⟨front, rfl⟩ := List.getLast?_eq_some_iff.mp isLast
  have run := (fixOsipHeader_eq_some last).mpr ⟨room, rfl⟩
  have written := getD_fixOsipHeader_attribute last run
  obtain ⟨type, sign⟩ := attribute_bits last (data.getD osipAttributeOffset 0#8)
  refine ⟨_, (fixOsipHeader_overwrites.foldlM front last data).trans run, run,
    length_fixOsipHeader last run, fun index notCrc notType => ?_, ?_, ?_,
    fixOsipHeader_foldsToZero last run⟩
  · rw [List.getElem?_set_ne notCrc.symm, clearedHeader, List.getElem?_set_ne notCrc.symm,
      List.getElem?_set_ne notType.symm]
  · rw [written]
    exact type
  · rw [written]
    exact sign

theorem fixOsipHeader_last_recovery : ∃ fixed,
    fixOsipHeaders (.replicate 224 0xff#8) [.recovery, .boot, .recovery] = some fixed ∧
      fixed.getD osipAttributeOffset 0#8 &&& 0xfe#8 = 0x0c#8 ∧ FoldsToZero fixed 224 := by
  obtain ⟨fixed, run, _, _, _, type, _, sealed⟩ :=
    @fixOsipHeader_last (.replicate 224 0xff#8) (Nat.le_of_eq List.length_replicate.symm)
      [.recovery, .boot, .recovery] .recovery rfl
  exact ⟨fixed, run, type, sealed⟩

end T00F.Mkbootimg
