import T00F.Power.ScreenOff

/-!
# Power profiles

`power.cpp` over four CPUs whose `cpufreq` refuses a write that would put the minimum
above the maximum. `applyPowerProfile_settled_iff` says when the order that
`apply_power_profile` chooses for its writes is accepted, `runSettled_iff` for which
sequences of calls every write is, and `follows_iff` what that means for the
profiles.
-/

namespace Systems

/-! ## Ranges that are set one bound at a time -/

universe u

variable {α : Type u} [LinearOrder α]

/-- Set the lower bound, unless it would cross the upper one. -/
def setLow (range : NonemptyInterval α) (low : α) : Option (NonemptyInterval α) :=
  if ordered : low ≤ range.snd then some ⟨(low, range.snd), ordered⟩ else none

/-- Set the upper bound, unless it would cross the lower one. -/
def setHigh (range : NonemptyInterval α) (high : α) : Option (NonemptyInterval α) :=
  if ordered : range.fst ≤ high then some ⟨(range.fst, high), ordered⟩ else none

/-- When a range is reached by its lower bound first. -/
theorem lowFirst_iff {old new : NonemptyInterval α} :
    (setLow old new.fst).bind (fun range => setHigh range new.snd) = some new ↔
      new.fst ≤ old.snd := by
  unfold setLow
  split
  next ordered =>
    simp only [Option.bind_some, setHigh, new.fst_le_snd, dif_pos, ordered]
  next crossed => simp [crossed]

/-- When it is reached by its upper bound first. -/
theorem highFirst_iff {old new : NonemptyInterval α} :
    (setHigh old new.snd).bind (fun range => setLow range new.fst) = some new ↔
      old.fst ≤ new.snd := by
  unfold setHigh
  split
  next ordered =>
    simp only [Option.bind_some, setLow, new.fst_le_snd, dif_pos, ordered]
  next crossed => simp [crossed]

end Systems

namespace T00F.Power

open Systems

/-! ## Profiles -/

/-- The scaling limits of a CPU. -/
abbrev Limits := NonemptyInterval Int

/-- `TOTAL_CPUS` -/
def totalCpus : Nat := 4

/-- The two nodes of a CPU that are written. -/
inductive ScalingNode where
  | minFreq
  | maxFreq
deriving DecidableEq, Repr

/-- What `cpufreq` does with a write: it refuses to cross the other limit. -/
def ScalingNode.write : ScalingNode → Int → Limits → Option Limits
  | .minFreq, freq, limits => setLow limits freq
  | .maxFreq, freq, limits => setHigh limits freq

/-- A write that was refused. -/
structure Rejection where
  cpu : Fin totalCpus
  node : ScalingNode
  freq : Int
deriving DecidableEq, Repr

/-- The static variables, the limits in force, and the writes refused so far. -/
structure State where
  currentPowerProfile : Int
  interactive : Bool
  cpus : Fin totalCpus → Limits
  rejected : List Rejection

/-! ## The calls -/

/-- `sysfs_write_int` on a node of a CPU. -/
def sysfsWriteInt (node : ScalingNode) (freq : Int) (state : State) (cpu : Fin totalCpus) :
    State :=
  match node.write freq (state.cpus cpu) with
  | some limits => { state with cpus := Function.update state.cpus cpu limits }
  | none => { state with rejected := state.rejected ++ [⟨cpu, node, freq⟩] }

/-- The loop of `set_min_freq` and `set_max_freq`. -/
def setFreq (node : ScalingNode) (freq : Int) (state : State) : State :=
  (List.finRange totalCpus).foldl (sysfsWriteInt node freq) state

/-- `set_min_freq` -/
def setMinFreq (freq : Int) (state : State) : State := setFreq .minFreq freq state

/-- `set_max_freq` -/
def setMaxFreq (freq : Int) (state : State) : State := setFreq .maxFreq freq state

def profilePowerSave : Int := 0
def profileBalanced : Int := 1
def profileHighPerformance : Int := 2
def profileBiasPower : Int := 3
def profileBiasPerformance : Int := 4
def profileMax : Int := 5

def powersaveMinFreq : Int := 800000
def powersaveMaxFreq : Int := 933000
def biasPerfMinFreq : Int := 1333000
def normalMaxFreq : Int := 1600000

/-- `get_profile_limits` -/
def getProfileLimits (profile : Int) : Int × Int :=
  if profile = profileHighPerformance then (normalMaxFreq, normalMaxFreq)
  else if profile = profileBiasPerformance then (biasPerfMinFreq, normalMaxFreq)
  else if profile = profileBiasPower ∨ profile = profilePowerSave then
    (powersaveMinFreq, powersaveMaxFreq)
  else (powersaveMinFreq, normalMaxFreq)

/-- A minimum lowered to the maximum is at most the maximum. -/
theorem lowered_le (minFreq maxFreq : Int) :
    (if minFreq > maxFreq then maxFreq else minFreq) ≤ maxFreq := by
  split
  · exact le_refl maxFreq
  next below => exact Int.not_lt.mp below

/-- The pair that `apply_power_profile` computes, with what it finds in the node of
the available frequencies. -/
def limitsFor (profile : Int) (interactive : Bool) (node : Option (List Byte)) : Limits :=
  let (minFreq, maxFreq) :=
    if interactive then getProfileLimits profile
    else (getScreenOffLimits node).getD (getProfileLimits profile)
  ⟨(if minFreq > maxFreq then maxFreq else minFreq, maxFreq), lowered_le minFreq maxFreq⟩

/-- `apply_power_profile` -/
def applyPowerProfile (node : Option (List Byte)) (state : State) : State :=
  let limits := limitsFor state.currentPowerProfile state.interactive node
  if state.interactive then setMinFreq limits.fst (setMaxFreq limits.snd state)
  else setMaxFreq limits.snd (setMinFreq limits.fst state)

/-- `power_set_interactive` -/
def powerSetInteractive (node : Option (List Byte)) (on : Int) (state : State) : State :=
  applyPowerProfile node { state with interactive := on != 0 }

/-- `set_power_profile` -/
def setPowerProfile (node : Option (List Byte)) (profile : Int) (state : State) : State :=
  if profile < profilePowerSave ∨ profile ≥ profileMax then state
  else applyPowerProfile node { state with currentPowerProfile := profile }

/-- `power_hint` with `POWER_HINT_SET_PROFILE`; the data may be `NULL`. -/
def powerHint (node : Option (List Byte)) (data : Option Int) (state : State) : State :=
  setPowerProfile node (data.getD profilePowerSave) state

/-! ## Two rounds of writes -/

variable {node : ScalingNode} {freq : Int} {state : State}

/-- A write reaches the limits of its own processor, if the kernel takes it. -/
theorem sysfsWriteInt_own (cpu : Fin totalCpus) :
    (sysfsWriteInt node freq state cpu).cpus cpu =
      (node.write freq (state.cpus cpu)).getD (state.cpus cpu) := by
  unfold sysfsWriteInt
  split
  next accepted =>
    rw [accepted]
    exact Function.update_self _ _ _
  next refused => rw [refused, Option.getD_none]

/-- A write leaves the limits of the other processors. -/
theorem sysfsWriteInt_other {cpu other : Fin totalCpus} (different : other ≠ cpu) :
    (sysfsWriteInt node freq state cpu).cpus other = state.cpus other := by
  unfold sysfsWriteInt
  split
  · exact Function.update_of_ne different _ _
  · rfl

/-- A write the kernel refuses is recorded. -/
theorem sysfsWriteInt_rejected (cpu : Fin totalCpus) :
    (sysfsWriteInt node freq state cpu).rejected = state.rejected ++
      if (node.write freq (state.cpus cpu)).isNone then [⟨cpu, node, freq⟩] else [] := by
  unfold sysfsWriteInt
  split
  next accepted => simp [accepted]
  next refused => simp [refused]

/-- The writes to some CPUs that are refused. -/
def refused (node : ScalingNode) (freq : Int) (limits : Fin totalCpus → Limits)
    (cpus : List (Fin totalCpus)) : List Rejection :=
  (cpus.filter fun cpu => (node.write freq (limits cpu)).isNone).map fun cpu => ⟨cpu, node, freq⟩

/-- Writing to some CPUs, each once. -/
theorem foldl_sysfsWriteInt {cpus : List (Fin totalCpus)} (nodup : cpus.Nodup) :
    (∀ cpu, (cpus.foldl (sysfsWriteInt node freq) state).cpus cpu =
      if cpu ∈ cpus then (node.write freq (state.cpus cpu)).getD (state.cpus cpu)
      else state.cpus cpu) ∧
    (cpus.foldl (sysfsWriteInt node freq) state).rejected =
      state.rejected ++ refused node freq state.cpus cpus := by
  induction cpus generalizing state with
  | nil => simp [refused]
  | cons first rest ih =>
      obtain ⟨absent, nodup⟩ := List.nodup_cons.mp nodup
      have all := @ih (sysfsWriteInt node freq state first) nodup
      constructor
      · intro cpu
        rw [List.foldl_cons, all.1 cpu]
        by_cases same : cpu = first
        · rw [same, if_neg absent, if_pos List.mem_cons_self, sysfsWriteInt_own]
        · simp [sysfsWriteInt_other same, same]
      · have kept : refused node freq (sysfsWriteInt node freq state first).cpus rest =
            refused node freq state.cpus rest := by
          unfold refused
          congr 1
          apply List.filter_congr
          intro cpu member
          have different : cpu ≠ first := by
            rintro rfl
            exact absent member
          rw [sysfsWriteInt_other different]
        rw [List.foldl_cons, all.2, kept, sysfsWriteInt_rejected, List.append_assoc]
        congr 1
        unfold refused
        rw [List.filter_cons]
        split_ifs
        · rfl
        · rfl

/-- One frequency is written to every processor. -/
theorem setFreq_cpus (cpu : Fin totalCpus) :
    (setFreq node freq state).cpus cpu =
      (node.write freq (state.cpus cpu)).getD (state.cpus cpu) := by
  rw [setFreq, (foldl_sysfsWriteInt (List.nodup_finRange totalCpus)).1,
    if_pos (List.mem_finRange cpu)]

/-- The refused writes of one frequency are recorded in the order of the processors. -/
theorem setFreq_rejected : (setFreq node freq state).rejected =
    state.rejected ++ refused node freq state.cpus (List.finRange totalCpus) :=
  (foldl_sysfsWriteInt (List.nodup_finRange totalCpus)).2

/-- Nothing is refused exactly when every processor takes the write. -/
theorem refused_eq_nil {limits : Fin totalCpus → Limits} :
    refused node freq limits (List.finRange totalCpus) = [] ↔
      ∀ cpu, (node.write freq (limits cpu)).isSome := by
  simp [refused, List.filter_eq_nil_iff, Option.isSome_iff_ne_none]

/-- Nothing was refused since `before`, and all CPUs have the limits. -/
def Settled (before after : State) (limits : Limits) : Prop :=
  after.rejected = before.rejected ∧ ∀ cpu, after.cpus cpu = limits

/-- Two rounds of writes settle exactly if the two writes take each CPU to the limits. -/
theorem setFreq_setFreq_settled {first second : ScalingNode} {early late : Int} {limits : Limits} :
    Settled state (setFreq second late (setFreq first early state)) limits ↔
      ∀ cpu, ((first.write early (state.cpus cpu)).bind fun range => second.write late range) =
        some limits := by
  unfold Settled
  rw [setFreq_rejected, setFreq_rejected, List.append_assoc, List.append_right_eq_self,
    List.append_eq_nil_iff, refused_eq_nil, refused_eq_nil]
  constructor
  · rintro ⟨⟨accepted, acceptedLate⟩, reached⟩ cpu
    obtain ⟨between, written⟩ := Option.isSome_iff_exists.mp (accepted cpu)
    have wrote := acceptedLate cpu
    have final := reached cpu
    rw [setFreq_cpus, setFreq_cpus, written, Option.getD_some] at final
    rw [setFreq_cpus, written, Option.getD_some] at wrote
    obtain ⟨last, writtenLate⟩ := Option.isSome_iff_exists.mp wrote
    rw [writtenLate, Option.getD_some] at final
    rw [written, Option.bind_some, writtenLate, final]
  · intro written
    refine ⟨⟨?_, ?_⟩, ?_⟩
    all_goals
      intro cpu
      obtain ⟨between, early, late⟩ := Option.bind_eq_some_iff.mp (written cpu)
    · rw [early]
      rfl
    · rw [setFreq_cpus, early, Option.getD_some, late]
      rfl
    · rw [setFreq_cpus, setFreq_cpus, early, Option.getD_some, late, Option.getD_some]

/-! ## Runs -/

/-- The order of writes of `apply_power_profile` leads from `old` to `new`. -/
def Follows (old new : Limits) (interactive : Bool) : Prop :=
  if interactive then old.fst ≤ new.snd else new.fst ≤ old.snd

/-- Applying a profile settles exactly when every processor can follow the order of the writes. -/
theorem applyPowerProfile_settled_iff (node : Option (List Byte)) :
    Settled state (applyPowerProfile node state)
        (limitsFor state.currentPowerProfile state.interactive node) ↔
      ∀ cpu, Follows (state.cpus cpu)
        (limitsFor state.currentPowerProfile state.interactive node) state.interactive := by
  unfold applyPowerProfile Follows
  generalize limitsFor state.currentPowerProfile state.interactive node = limits
  cases state.interactive with
  | true =>
      simp only [if_true, setMinFreq, setMaxFreq]
      exact setFreq_setFreq_settled.trans (forall_congr' fun cpu => highFirst_iff)
  | false =>
      simp only [Bool.false_eq_true, if_false, setMinFreq, setMaxFreq]
      exact setFreq_setFreq_settled.trans (forall_congr' fun cpu => lowFirst_iff)

/-- Writing frequencies changes neither the profile nor the screen state. -/
theorem foldl_sysfsWriteInt_settings (cpus : List (Fin totalCpus)) :
    (cpus.foldl (sysfsWriteInt node freq) state).currentPowerProfile = state.currentPowerProfile ∧
      (cpus.foldl (sysfsWriteInt node freq) state).interactive = state.interactive := by
  induction cpus generalizing state with
  | nil => exact ⟨rfl, rfl⟩
  | cons cpu rest ih =>
      obtain ⟨profile, interactive⟩ := @ih (sysfsWriteInt node freq state cpu)
      rw [List.foldl_cons, profile, interactive]
      unfold sysfsWriteInt
      split
      · exact ⟨rfl, rfl⟩
      · exact ⟨rfl, rfl⟩

@[simp] theorem setFreq_currentPowerProfile :
    (setFreq node freq state).currentPowerProfile = state.currentPowerProfile :=
  (foldl_sysfsWriteInt_settings (List.finRange totalCpus)).1

@[simp] theorem setFreq_interactive : (setFreq node freq state).interactive = state.interactive :=
  (foldl_sysfsWriteInt_settings (List.finRange totalCpus)).2

/-- The writes leave the settings alone. -/
theorem applyPowerProfile_settings (table : Option (List Byte)) (state : State) :
    (applyPowerProfile table state).currentPowerProfile = state.currentPowerProfile ∧
      (applyPowerProfile table state).interactive = state.interactive := by
  unfold applyPowerProfile
  cases on : state.interactive with
  | true => simp [setMinFreq, setMaxFreq, on]
  | false => simp [setMinFreq, setMaxFreq, on]

/-- A valid profile. -/
abbrev Profile := { profile : Int // profilePowerSave ≤ profile ∧ profile < profileMax }

/-- A call of `setInteractive`, or of `powerHint` with a profile or `NULL`. -/
inductive Request where
  | setInteractive (on : Int)
  | setProfile (data : Option Profile)

/-- A request, and what is in the node of the available frequencies at its time. -/
structure Call where
  request : Request
  node : Option (List Byte)

def Call.run (call : Call) (state : State) : State :=
  match call.request with
  | .setInteractive on => powerSetInteractive call.node on state
  | .setProfile data => powerHint call.node (data.map Subtype.val) state

/-- The profile and the interactive flag that a call leaves. -/
def Call.settings (call : Call) (settings : Int × Bool) : Int × Bool :=
  match call.request with
  | .setInteractive on => (settings.1, on != 0)
  | .setProfile data => ((data.map Subtype.val).getD profilePowerSave, settings.2)

/-- After each call nothing it wrote was refused, and every CPU has the limits of the
profile and the flag. -/
def RunSettled : State → List Call → Prop
  | _, [] => True
  | state, call :: rest =>
      let after := call.run state
      Settled state after (limitsFor after.currentPowerProfile after.interactive call.node) ∧
        RunSettled after rest

/-- The limits of each call follow those of the call before it, the first ones the
limits given. -/
def RunFollows : Int × Bool → (Fin totalCpus → Limits) → List Call → Prop
  | _, _, [] => True
  | settings, limits, call :: rest =>
      let (profile, interactive) := call.settings settings
      let new := limitsFor profile interactive call.node
      (∀ cpu, Follows (limits cpu) new interactive) ∧
        RunFollows (profile, interactive) (fun _ => new) rest

/-- Every call ends in applying the profile it leaves. -/
theorem Call.run_eq (call : Call) (state : State) : call.run state =
    applyPowerProfile call.node
      { state with
        currentPowerProfile :=
          (call.settings (state.currentPowerProfile, state.interactive)).1
        interactive := (call.settings (state.currentPowerProfile, state.interactive)).2 } := by
  unfold Call.run Call.settings
  cases call.request with
  | setInteractive on => rfl
  | setProfile data =>
      have valid : ¬ ((data.map Subtype.val).getD profilePowerSave < profilePowerSave ∨
          (data.map Subtype.val).getD profilePowerSave ≥ profileMax) := by
        cases data with
        | none => decide
        | some profile =>
            have range := profile.property
            simp only [Option.map_some, Option.getD_some]
            omega
      exact if_neg valid

/-- A run call leaves the settings it is defined to leave. -/
theorem Call.run_settings (call : Call) (state : State) :
    (call.run state).currentPowerProfile =
        (call.settings (state.currentPowerProfile, state.interactive)).1 ∧
      (call.run state).interactive =
        (call.settings (state.currentPowerProfile, state.interactive)).2 := by
  rw [call.run_eq]
  exact applyPowerProfile_settings _ _

/-- When one call settles, in terms of the limits before it. -/
theorem Call.settled_iff (call : Call) (state : State) :
    let settings := call.settings (state.currentPowerProfile, state.interactive)
    let new := limitsFor settings.1 settings.2 call.node
    Settled state (call.run state) new ↔ ∀ cpu, Follows (state.cpus cpu) new settings.2 := by
  rw [call.run_eq]
  exact applyPowerProfile_settled_iff call.node

/-- A run from any limits leaves each call's limits in force, with no write refused,
exactly if the limits of each call follow those of the call before. -/
theorem runSettled_iff (state : State) (calls : List Call) :
    RunSettled state calls ↔
      RunFollows (state.currentPowerProfile, state.interactive) state.cpus calls := by
  induction calls generalizing state with
  | nil => exact Iff.rfl
  | cons call rest ih =>
      obtain ⟨profile, interactive⟩ := call.run_settings state
      rw [RunSettled, RunFollows]
      dsimp only
      rw [ih, profile, interactive]
      have settled := call.settled_iff state
      constructor
      · rintro ⟨first, others⟩
        refine ⟨settled.mp first, ?_⟩
        rw [funext first.2] at others
        exact others
      · rintro ⟨first, others⟩
        have done := settled.mpr first
        refine ⟨done, ?_⟩
        rw [funext done.2]
        exact others

/-- From the limits of the balanced profile, with the screen on. -/
def balancedState : State where
  currentPowerProfile := profileBalanced
  interactive := true
  cpus _ := ⟨(powersaveMinFreq, normalMaxFreq), by decide⟩
  rejected := []

/-- After high performance the maximum of power save is refused. -/
theorem highPerformance_powerSave_refused : ¬ RunSettled balancedState
    [⟨.setProfile (some ⟨profileHighPerformance, by decide⟩), none⟩, ⟨.setProfile none, none⟩] := by
  rintro ⟨_, ⟨rejected, _⟩, _⟩
  exact absurd rejected (by decide)

/-! ## Which profiles follow each other -/

/-- The limits of every profile are ordered, and the screen-off target is below its maximum. -/
theorem getProfileLimits_le (profile : Int) :
    (getProfileLimits profile).1 ≤ (getProfileLimits profile).2 ∧
      screenOffTargetMaxFreq ≤ (getProfileLimits profile).2 := by
  unfold getProfileLimits
  split_ifs
  · decide
  · decide
  · decide
  · decide

/-- The minima lie below the normal maximum, and those of the performance profiles above
powersave's. -/
theorem getProfileLimits_fst_le (profile : Int) :
    (getProfileLimits profile).1 ≤ normalMaxFreq ∧
      ((getProfileLimits profile).1 ≤ powersaveMaxFreq ↔
        ¬ (profile = profileHighPerformance ∨ profile = profileBiasPerformance)) := by
  unfold getProfileLimits
  split_ifs
  all_goals simp_all [normalMaxFreq, powersaveMaxFreq, biasPerfMinFreq, powersaveMinFreq]

/-- The maximum of a profile: the powersave one for the two power profiles, else the normal one. -/
theorem getProfileLimits_snd (profile : Int) : (getProfileLimits profile).2 =
    if profile = profilePowerSave ∨ profile = profileBiasPower then powersaveMaxFreq
    else normalMaxFreq := by
  unfold getProfileLimits profileHighPerformance profileBiasPerformance profileBiasPower
    profilePowerSave
  split_ifs
  all_goals first | rfl | omega

/-- With the screen on the limits are those of the profile. -/
theorem limitsFor_on (profile : Int) (table : Option (List Byte)) :
    (limitsFor profile true table).toProd = getProfileLimits profile := by
  have ordered := (getProfileLimits_le profile).1
  simp only [limitsFor, if_true]
  rw [if_neg (by omega)]

/-- With the screen off they are those of the table. -/
theorem limitsFor_off {table : Option (List Byte)} {minFreq maxFreq : Int}
    (found : getScreenOffLimits table = some (minFreq, maxFreq)) (profile : Int) :
    (limitsFor profile false table).toProd = (minFreq, maxFreq) := by
  have ordered := (getScreenOffLimits_le found).1
  simp only [limitsFor, found, Bool.false_eq_true, if_false, Option.getD_some]
  rw [if_neg (by omega)]

/-- With the same table, whose lowest frequency is not above the target, only one kind of
change is refused: with the screen on, from a profile of high minimum to one of low
maximum. -/
theorem follows_iff {table : Option (List Byte)} {minFreq maxFreq : Int}
    (found : getScreenOffLimits table = some (minFreq, maxFreq))
    (low : minFreq ≤ screenOffTargetMaxFreq) (old new : Int) (on stays : Bool) :
    Follows (limitsFor old on table) (limitsFor new stays table) stays ↔
      ¬ (on = true ∧ stays = true ∧
        (old = profileHighPerformance ∨ old = profileBiasPerformance) ∧
        (new = profilePowerSave ∨ new = profileBiasPower)) := by
  have ordered := (getScreenOffLimits_le found).1
  have oldHigh := (getProfileLimits_le old).2
  have newHigh := (getProfileLimits_le new).2
  unfold Follows
  cases on with
  | true =>
      cases stays with
      | true =>
          rw [if_pos rfl, limitsFor_on, limitsFor_on, getProfileLimits_snd]
          obtain ⟨bound, lowered⟩ := getProfileLimits_fst_le old
          split
          next capped => simpa [capped] using lowered
          next uncapped => simpa [uncapped] using bound
      | false =>
          rw [if_neg Bool.false_ne_true, limitsFor_on, limitsFor_off found]
          simp only [Bool.false_eq_true, false_and, and_false, not_false_eq_true, iff_true]
          exact Int.le_trans low oldHigh
  | false =>
      simp only [Bool.false_eq_true, false_and, not_false_eq_true, iff_true]
      rw [limitsFor_off found]
      split
      next stays =>
        rw [stays, limitsFor_on]
        exact Int.le_trans low newHigh
      next stays =>
        rw [Bool.eq_false_of_not_eq_true stays, limitsFor_off found]
        exact ordered

end T00F.Power
