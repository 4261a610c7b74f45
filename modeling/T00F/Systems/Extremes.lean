import Mathlib

/-!
# Extreme values of a set

The least value of a set together with its greatest value up to a cap. `extremes_iff` says
when the extremes of one set are those of another, and `isLeast_of_insert` how a minimum
that starts from a sentinel is to be read.
-/

namespace Systems

universe u

variable {α : Type u}

section Agreement

variable [PartialOrder α] {cap low high : α} {seen listed : Set α}

/-- The least value, and the greatest one up to a cap; again the least if there is none. -/
def Extremes (cap : α) (values : Set α) : Option (α × α) → Prop
  | none => values = ∅
  | some (low, high) => IsLeast values low ∧
      (IsGreatest (values ∩ Set.Iic cap) high ∨ values ∩ Set.Iic cap = ∅ ∧ high = low)

/-- Both extremes are values, in order. -/
theorem Extremes.mem {values : Set α} (extremes : Extremes cap values (some (low, high))) :
    low ∈ values ∧ high ∈ values ∧ low ≤ high := by
  obtain ⟨least, greatest | ⟨_, same⟩⟩ := extremes
  · exact ⟨least.1, greatest.1.1, least.2 greatest.1.1⟩
  · rw [same]
    exact ⟨least.1, least.1, le_refl low⟩

/-- No value of either set lies below all values of the other. -/
def Coinitial (seen listed : Set α) : Prop :=
  (∀ value ∈ listed, ∃ below ∈ seen, below ≤ value) ∧
    ∀ value ∈ seen, ∃ below ∈ listed, below ≤ value

/-- No value of either set lies above all values of the other. -/
def Cofinal (seen listed : Set α) : Prop :=
  (∀ value ∈ listed, ∃ above ∈ seen, value ≤ above) ∧
    ∀ value ∈ seen, ∃ above ∈ listed, value ≤ above

/-- What is listed has the least value seen exactly when it is coinitial in what was seen. -/
theorem isLeast_iff_coinitial (least : IsLeast seen low) :
    IsLeast listed low ↔ Coinitial seen listed := by
  constructor
  · intro same
    exact ⟨fun value member => ⟨low, least.1, same.2 member⟩,
      fun value member => ⟨low, same.1, least.2 member⟩⟩
  · rintro ⟨down, up⟩
    have lower : low ∈ lowerBounds listed := by
      intro value member
      obtain ⟨below, known, le⟩ := down value member
      exact (least.2 known).trans le
    obtain ⟨below, member, le⟩ := up low least.1
    have same : below = low := le_antisymm le (lower member)
    exact ⟨same ▸ member, lower⟩

/-- What is listed has the greatest value seen exactly when it is cofinal in what was seen. -/
theorem isGreatest_iff_cofinal (greatest : IsGreatest seen high) :
    IsGreatest listed high ↔ Cofinal seen listed :=
  @isLeast_iff_coinitial αᵒᵈ _ high seen listed greatest

/-- Of nothing seen, only nothing listed is coinitial. -/
theorem coinitial_empty : Coinitial ∅ listed ↔ listed = ∅ := by
  simp [Coinitial, Set.eq_empty_iff_forall_notMem]

/-- Of nothing seen, only nothing listed is cofinal. -/
theorem cofinal_empty : Cofinal ∅ listed ↔ listed = ∅ := by
  simp [Cofinal, Set.eq_empty_iff_forall_notMem]

/-- The extremes of one set are those of another one exactly if no value lies beyond the
values of the other set. -/
theorem extremes_iff {result : Option (α × α)} (extremes : Extremes cap seen result) :
    Extremes cap listed result ↔
      Coinitial seen listed ∧ Cofinal (seen ∩ Set.Iic cap) (listed ∩ Set.Iic cap) := by
  cases result with
  | none =>
      have empty : seen = ∅ := extremes
      rw [empty, Set.empty_inter, coinitial_empty, cofinal_empty]
      constructor
      · intro none
        have listedEmpty : listed = ∅ := none
        exact ⟨listedEmpty, by rw [listedEmpty, Set.empty_inter]⟩
      · exact fun both => both.1
  | some pair =>
      obtain ⟨low, high⟩ := pair
      obtain ⟨least, above⟩ := extremes
      rw [Extremes, isLeast_iff_coinitial least]
      apply and_congr_right
      intro coinitial
      have listedLow := ((isLeast_iff_coinitial least).mpr coinitial).1
      rcases above with greatest | ⟨none, same⟩
      · rw [← isGreatest_iff_cofinal greatest, or_iff_left]
        rintro ⟨none, same⟩
        have member : low ∈ listed ∩ Set.Iic cap := ⟨listedLow, by rw [← same]; exact greatest.1.2⟩
        rw [none] at member
        exact member
      · rw [none, cofinal_empty]
        constructor
        · rintro (greatest | ⟨empty, _⟩)
          · -- The least value would be up to the cap and thus among those of `seen`.
            have member : low ∈ seen ∩ Set.Iic cap := ⟨least.1, by rw [← same]; exact greatest.1.2⟩
            rw [none] at member
            exact member.elim
          · exact empty
        · exact fun empty => Or.inr ⟨empty, same⟩

/-- A minimum other than the sentinel is one of the values. -/
theorem isLeast_of_insert {top : α} {values : Set α} (least : IsLeast (insert top values) low)
    (found : low ≠ top) : IsLeast values low :=
  ⟨least.1.resolve_left found, fun _ member => least.2 (Or.inr member)⟩

/-- A greatest element other than the sentinel is one of the values themselves. -/
theorem isGreatest_of_insert {bottom : α} {values : Set α}
    (greatest : IsGreatest (insert bottom values) high) (found : high ≠ bottom) :
    IsGreatest values high :=
  @isLeast_of_insert αᵒᵈ _ high bottom values greatest found

/-- If the minimum is the sentinel and all values lie below it, there are none. -/
theorem eq_empty_of_insert {top : α} {values : Set α} (least : IsLeast (insert top values) top)
    (below : ∀ value ∈ values, value < top) : values = ∅ := by
  apply Set.eq_empty_of_forall_notMem
  intro value member
  exact absurd (least.2 (Or.inr member)) (not_le_of_gt (below value member))

end Agreement

end Systems
