import Mathlib

/-!
# Progress in infinite runs

Facts about the times of a run. `LeadsTo` says that one kind of time is always followed
by another; `leadsTo_of_rank` derives it from a rank that falls whenever a fair action is
taken. `stable` is the rule for what no step undoes.
-/

namespace Systems

/-- Every time at which `P` holds is followed by one at which `Q` holds. -/
def LeadsTo (P Q : Nat → Prop) : Prop := ∀ time, P time → ∃ later, time ≤ later ∧ Q later

variable {P Q R : Nat → Prop}

theorem LeadsTo.of_imp (now : ∀ time, P time → Q time) : LeadsTo P Q :=
  fun time holds => ⟨time, le_rfl, now time holds⟩

theorem LeadsTo.trans (first : LeadsTo P Q) (second : LeadsTo Q R) : LeadsTo P R := by
  intro time holds
  obtain ⟨middle, reached, between⟩ := first time holds
  obtain ⟨later, after, done⟩ := second middle between
  exact ⟨later, reached.trans after, done⟩

/-- What no step undoes holds from its first time on. -/
theorem stable (step : ∀ time, P time → P (time + 1)) {time : Nat} (holds : P time) :
    ∀ later, time ≤ later → P later := by
  intro later after
  induction later, after using Nat.le_induction with
  | base => exact holds
  | succ later _ ih => exact step later ih

/-- What holds until something else does. -/
theorem holds_until (step : ∀ time, P time → Q time ∨ P (time + 1)) {time : Nat} (holds : P time)
    {later : Nat} (after : time ≤ later) :
    (∃ between, time ≤ between ∧ between < later ∧ Q between) ∨ P later := by
  induction later, after using Nat.le_induction with
  | base => exact .inr holds
  | succ later after ih =>
      rcases ih with ⟨between, low, high, done⟩ | holds
      · exact .inl ⟨between, low, Nat.lt_succ_of_lt high, done⟩
      · rcases step later holds with done | kept
        · exact .inl ⟨later, after, Nat.lt_succ_self later, done⟩
        · exact .inr kept

section Rank

variable (rank : Nat → Nat) (Acts : Nat → Prop)
  (step : ∀ time, P time → Q (time + 1) ∨
    (P (time + 1) ∧ rank (time + 1) ≤ rank time ∧ (Acts time → rank (time + 1) < rank time)))

include step in
/-- Up to the next action the rank has fallen, or `Q` holds. -/
theorem falls_of_acts {wait time : Nat} (holds : P time) (acts : Acts (time + wait)) :
    ∃ later, time ≤ later ∧ (Q later ∨ (P later ∧ rank later < rank time)) := by
  induction wait generalizing time with
  | zero =>
      rcases step time holds with done | ⟨kept, _, falls⟩
      · exact ⟨time + 1, Nat.le_succ time, .inl done⟩
      · exact ⟨time + 1, Nat.le_succ time, .inr ⟨kept, falls acts⟩⟩
  | succ wait ih =>
      rcases step time holds with done | ⟨kept, low, _⟩
      · exact ⟨time + 1, Nat.le_succ time, .inl done⟩
      · have acts : Acts (time + 1 + wait) := by rwa [Nat.add_right_comm, Nat.add_assoc]
        obtain ⟨later, after, done | ⟨holds, falls⟩⟩ := ih kept acts
        · exact ⟨later, by omega, .inl done⟩
        · exact ⟨later, by omega, .inr ⟨holds, by omega⟩⟩

include step in
/-- A rank that no step raises and every action lowers leads to `Q`, if the action is taken
again and again as long as `P` holds. -/
theorem leadsTo_of_rank (fair : ∀ time, P time → ∃ later, time ≤ later ∧ Acts later) :
    LeadsTo P Q := by
  intro time holds
  induction bound : rank time using Nat.strong_induction_on generalizing time with
  | _ bound ih =>
      obtain ⟨next, after, acts⟩ := fair time holds
      rw [← Nat.add_sub_cancel' after] at acts
      obtain ⟨later, reached, done | ⟨holds, falls⟩⟩ := falls_of_acts rank Acts step holds acts
      · exact ⟨later, reached, done⟩
      · obtain ⟨final, end_after, done⟩ := ih (rank later) (bound ▸ falls) later holds rfl
        exact ⟨final, reached.trans end_after, done⟩

end Rank

/-- The same for an action that is only taken again and again as long as `P` holds. Here `Q` may
also hold of a step itself. -/
theorem leadsTo_of_weakFair (rank : Nat → Nat) (Acts : Nat → Prop)
    (step : ∀ time, P time → Q time ∨
      (P (time + 1) ∧ rank (time + 1) ≤ rank time ∧ (Acts time → rank (time + 1) < rank time)))
    (fair : ∀ time, ∃ later, time ≤ later ∧ (Acts later ∨ ¬ P later)) : LeadsTo P Q := by
  intro time holds
  by_contra never
  have forever : ∀ later, time ≤ later → P later ∧ ¬ Q later := by
    intro later after
    refine ⟨?_, fun done => never ⟨later, after, done⟩⟩
    rcases holds_until (fun time holds => (step time holds).imp_right And.left) holds after with
      ⟨between, low, _, done⟩ | kept
    · exact absurd ⟨between, low, done⟩ never
    · exact kept
  -- `P` holds from now on, so the rank would fall for ever.
  have falls : LeadsTo (fun later => time ≤ later) fun _ => False := by
    refine leadsTo_of_rank rank Acts ?_ ?_
    · intro later after
      obtain ⟨kept, notYet⟩ := forever later after
      exact .inr ⟨Nat.le_succ_of_le after, ((step later kept).resolve_left notYet).2⟩
    · intro later after
      obtain ⟨next, reached, acts | lost⟩ := fair later
      · exact ⟨next, reached, acts⟩
      · exact absurd (forever next (after.trans reached)).1 lost
  obtain ⟨_, -, impossible⟩ := falls time le_rfl
  exact impossible

end Systems
