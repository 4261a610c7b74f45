import T00F.Systems.Mapping

/-!
# What a write may change

Two mappings that load the same bytes outside of a set of places. `SameOutside` is an
equivalence for each set and grows with it, so that the frames of several writes add up to
a frame of them all (`SameOutside.trans`, `SameOutside.mono`). `Mapping.Torn` mixes versions.
-/

namespace Systems

variable {size : Nat} {places more : Set Nat} {left middle right : Mapping size}

/-- The bytes of a word. -/
theorem Mapping.byte_load32 (mapping : Mapping size) (offset : Nat) {index : Nat}
    (bound : index < 4) : (mapping.load32 offset).byte index = mapping.load8 (offset + index) := by
  rw [Mapping.load32]
  interval_cases index
  · exact Word.byte_ofBytes_zero _ _ _ _
  · exact Word.byte_ofBytes_one _ _ _ _
  · exact Word.byte_ofBytes_two _ _ _ _
  · exact Word.byte_ofBytes_three _ _ _ _

/-- Equal words have equal bytes. -/
theorem Mapping.load8_eq_of_load32 {place offset : Nat}
    (word : left.load32 place = right.load32 place) (low : place ≤ offset)
    (high : offset < place + 4) : left.load8 offset = right.load8 offset := by
  obtain ⟨index, rfl⟩ := Nat.exists_eq_add_of_le low
  rw [← left.byte_load32 place (by omega), word, right.byte_load32 place (by omega)]

/-- The mappings load the same bytes except at these places. -/
def SameOutside (places : Set Nat) (left right : Mapping size) : Prop :=
  ∀ offset < size, offset ∉ places → left.load8 offset = right.load8 offset

namespace SameOutside

/-- A mapping agrees with itself. -/
theorem refl (places : Set Nat) (mapping : Mapping size) : SameOutside places mapping mapping :=
  fun _ _ _ => rfl

/-- Agreement does not depend on the order. -/
theorem symm (same : SameOutside places left right) : SameOutside places right left :=
  fun offset inside outside => (same offset inside outside).symm

/-- Agreement passes through a third mapping. -/
theorem trans (first : SameOutside places left middle) (second : SameOutside places middle right) :
    SameOutside places left right :=
  fun offset inside outside => (first offset inside outside).trans (second offset inside outside)

/-- Agreement outside of some places is agreement outside of more. -/
theorem mono (same : SameOutside places left right) (wider : places ⊆ more) :
    SameOutside more left right :=
  fun offset inside outside => same offset inside fun member => outside (wider member)

/-- A word that lies outside of the places is the same. -/
theorem load32 (same : SameOutside places left right) {offset : Nat} (inside : offset + 4 ≤ size)
    (apart : ∀ index, offset ≤ index → index < offset + 4 → index ∉ places) :
    left.load32 offset = right.load32 offset :=
  Mapping.load32_congr fun index low high => same index (by omega) (apart index low high)

end SameOutside

/-- Every byte is as in one of the versions. -/
def Mapping.Torn (left : Mapping size) (versions : List (Mapping size)) : Prop :=
  ∀ offset < size, ∃ version ∈ versions, left.load8 offset = version.load8 offset

/-- A whole version. -/
theorem Mapping.torn_of_mem {versions : List (Mapping size)} (member : left ∈ versions) :
    left.Torn versions :=
  fun _ _ => ⟨left, member, rfl⟩

/-- What all versions share is not torn. -/
theorem Mapping.Torn.sameOutside {versions : List (Mapping size)} (torn : left.Torn versions)
    (same : ∀ version ∈ versions, SameOutside places version right) :
    SameOutside places left right := by
  intro offset inside outside
  obtain ⟨version, member, byte⟩ := torn offset inside
  exact byte.trans (same version member offset inside outside)

end Systems
