import T00F.Power.ScreenOff
import T00F.Systems.Extremes
import T00F.Systems.Words

/-!
# The limits and the listed frequencies

What `get_screen_off_limits` finds are the extremes of the frequencies that it sees: those
of the tokens in the first bytes of the node, less `INT_MAX`. `screenOffLimits_iff` says
when they are the extremes of the listed frequencies, and `screenOffLimits_plain` that they
are for a short node of plain text.
-/

namespace T00F.Power

open Systems

/-- The separators of `strtok_r`. -/
def isSeparator (byte : Byte) : Bool := byte == ascii ' ' || byte == 0x0a#8

/-- The value of a decimal integer with an optional sign. -/
def decimal (token : List Byte) : Option Int :=
  let (negative, body) := sign token
  let (magnitude, count, after) := digits decimalDigit 10 0 body
  if count = 0 ∨ after ≠ [] then none
  else some (if negative then -(magnitude : Int) else magnitude)

/-- The frequencies that the text of the node lists. -/
def listed (content : List Byte) : Set Int :=
  {freq | (∃ token ∈ tokens isSeparator content, decimal token = some freq) ∧
    1 ≤ freq ∧ freq ≤ intMax}

/-- The frequencies that the loop accepts among some tokens. -/
def accepted (texts : List (List Byte)) : Set Int :=
  {freq | (∃ token ∈ texts, strtol token = (freq, [])) ∧ 1 ≤ freq ∧ freq ≤ intMax}

/-- The tokens that `sysfs_read` leaves of the text. -/
def readTokens (content : List Byte) : List (List Byte) :=
  tokens isSeparator (cString (content.take (bufSize - 1)))

/-- The frequencies that `get_screen_off_limits` sees. -/
def seen (content : List Byte) : Set Int :=
  {freq | freq ∈ accepted (readTokens content) ∧ freq < intMax}

/-- The smallest listed frequency, and the largest one up to the target, or the smallest
one if there is none; `false` if no frequency is listed. -/
def ScreenOffLimits (content : List Byte) (limits : Option (Int × Int)) : Prop :=
  Extremes screenOffTargetMaxFreq (listed content) limits

/-- Both limits are listed, in order. -/
theorem ScreenOffLimits.mem {content : List Byte} {minFreq maxFreq : Int}
    (limits : ScreenOffLimits content (some (minFreq, maxFreq))) :
    minFreq ∈ listed content ∧ maxFreq ∈ listed content ∧ minFreq ≤ maxFreq :=
  Extremes.mem limits

/-! ## What the loop finds -/

/-- The accepted frequencies of a token and those of the rest. -/
theorem accepted_cons (token : List Byte) (rest : List (List Byte)) :
    accepted (token :: rest) = accepted [token] ∪ accepted rest := by
  ext freq
  simp only [accepted, List.mem_cons, List.not_mem_nil, or_false, or_and_right, exists_or,
    exists_eq_left, Set.mem_union, Set.mem_ofPred_eq]

/-- A token that the loop skips. -/
theorem accepted_skip {token : List Byte}
    (skip : token = [] ∨ (strtol token).2 ≠ [] ∨ (strtol token).1 ≤ 0 ∨
      (strtol token).1 > intMax) : accepted [token] = ∅ := by
  apply Set.eq_empty_of_forall_notMem
  rintro freq ⟨⟨text, member, read⟩, positive, small⟩
  rw [List.mem_singleton.mp member] at read
  rcases skip with empty | rest | low | high
  · -- `strtol` finds no digits.
    rw [empty] at read
    have zero : (0 : Int) = freq := congrArg Prod.fst read
    omega
  · exact rest (congrArg Prod.snd read)
  · rw [read] at low
    dsimp only at low
    omega
  · rw [read] at high
    dsimp only at high
    omega

/-- A token that is a positive number in range is accepted. -/
theorem accepted_token {token : List Byte}
    (keep : ¬ (token = [] ∨ (strtol token).2 ≠ [] ∨ (strtol token).1 ≤ 0 ∨
      (strtol token).1 > intMax)) : accepted [token] = {(strtol token).1} := by
  simp only [not_or, not_not, not_le, not_lt] at keep
  obtain ⟨_, ended, positive, small⟩ := keep
  ext freq
  rw [Set.mem_singleton_iff]
  constructor
  · rintro ⟨⟨text, member, read⟩, _⟩
    rw [List.mem_singleton.mp member] at read
    rw [read]
  · rintro rfl
    exact ⟨⟨token, List.mem_cons_self, Prod.ext rfl ended⟩, positive, small⟩

/-- The loop keeps the minimum, from `INT_MAX` on, of the frequencies so far. -/
theorem scanFreqs_least (texts : List (List Byte)) {values : Set Int}
    {lowestFreq cappedFreq : Int} (least : IsLeast (insert intMax values) lowestFreq) :
    IsLeast (insert intMax (values ∪ accepted texts))
      (scanFreqs texts lowestFreq cappedFreq).1 := by
  induction texts generalizing values lowestFreq cappedFreq with
  | nil => simpa [accepted, scanFreqs] using least
  | cons token rest ih =>
      rw [accepted_cons, ← Set.union_assoc, scanFreqs]
      dsimp only
      split
      next skip =>
        rw [accepted_skip skip, Set.union_empty]
        exact ih least
      next keep =>
        rw [accepted_token keep]
        apply ih
        have inserted := least.insert (strtol token).1
        rw [Set.union_singleton, Set.insert_comm]
        rwa [min_def_lt] at inserted

/-- The loop keeps the maximum, from 0 on, of the frequencies up to the target so far. -/
theorem scanFreqs_greatest (texts : List (List Byte)) {values : Set Int}
    {lowestFreq cappedFreq : Int}
    (greatest : IsGreatest (insert 0 (values ∩ Set.Iic screenOffTargetMaxFreq)) cappedFreq) :
    IsGreatest (insert 0 ((values ∪ accepted texts) ∩ Set.Iic screenOffTargetMaxFreq))
      (scanFreqs texts lowestFreq cappedFreq).2 := by
  induction texts generalizing values lowestFreq cappedFreq with
  | nil => simpa [accepted, scanFreqs] using greatest
  | cons token rest ih =>
      rw [accepted_cons, ← Set.union_assoc, scanFreqs]
      dsimp only
      split
      next skip =>
        rw [accepted_skip skip, Set.union_empty]
        exact ih greatest
      next keep =>
        rw [accepted_token keep]
        apply ih
        by_cases under : (strtol token).1 ≤ screenOffTargetMaxFreq
        · have inserted := greatest.insert (strtol token).1
          have up : (strtol token).1 ∈ Set.Iic screenOffTargetMaxFreq := under
          rw [Set.union_singleton, Set.insert_inter_of_mem up, Set.insert_comm]
          simp only [under, true_and]
          rwa [max_comm, max_def_lt] at inserted
        · have off : (strtol token).1 ∉ Set.Iic screenOffTargetMaxFreq := under
          rw [Set.union_singleton, Set.insert_inter_of_notMem off]
          simpa only [under, false_and, if_false] using greatest

/-- The limits are the extremes of the frequencies that are seen. -/
theorem getScreenOffLimits_seen (content : List Byte) :
    Extremes screenOffTargetMaxFreq (seen content) (getScreenOffLimits (some content)) := by
  have capped : ∀ freq, freq ≤ screenOffTargetMaxFreq → freq < intMax := fun freq under =>
    lt_of_le_of_lt under (by decide)
  have least := @scanFreqs_least (readTokens content) ∅ intMax 0 (by simp)
  have greatest := @scanFreqs_greatest (readTokens content) ∅ intMax 0 (by simp)
  rw [Set.empty_union] at least greatest
  -- `INT_MAX` itself is the sentinel, and it is above the target.
  have sentinel : insert intMax (accepted (readTokens content)) = insert intMax (seen content) := by
    ext freq
    simp only [Set.mem_insert_iff, seen, Set.mem_ofPred_eq]
    constructor
    · rintro (same | member)
      · exact Or.inl same
      · rcases lt_or_eq_of_le member.2.2 with below | same
        · exact Or.inr ⟨member, below⟩
        · exact Or.inl same
    · exact fun either => either.imp_right And.left
  have under : accepted (readTokens content) ∩ Set.Iic screenOffTargetMaxFreq =
      seen content ∩ Set.Iic screenOffTargetMaxFreq := by
    ext freq
    exact ⟨fun both => ⟨⟨both.1, capped freq both.2⟩, both.2⟩, fun both => ⟨both.1.1, both.2⟩⟩
  rw [sentinel] at least
  rw [under] at greatest
  have run : getScreenOffLimits (some content) =
      if (scanFreqs (readTokens content) intMax 0).1 = intMax then none
      else some ((scanFreqs (readTokens content) intMax 0).1,
        if (scanFreqs (readTokens content) intMax 0).2 ≠ 0 then
          (scanFreqs (readTokens content) intMax 0).2
        else (scanFreqs (readTokens content) intMax 0).1) := rfl
  rw [run]
  generalize scanFreqs (readTokens content) intMax 0 = extremes at least greatest
  obtain ⟨lowestFreq, cappedFreq⟩ := extremes
  dsimp only at least greatest ⊢
  split
  next none_seen =>
    rw [none_seen] at least
    exact eq_empty_of_insert least fun freq member => member.2
  next some_seen =>
    refine ⟨isLeast_of_insert least some_seen, ?_⟩
    split
    next some_capped => exact Or.inl (isGreatest_of_insert greatest some_capped)
    next none_capped =>
      rw [not_not] at none_capped
      rw [none_capped] at greatest
      refine Or.inr ⟨?_, rfl⟩
      exact @eq_empty_of_insert ℤᵒᵈ _ 0 _ greatest fun freq member => member.1.1.2.1

/-- The limits are as they should be exactly if no listed frequency lies beyond those that
are seen, and none that is seen beyond the listed ones; likewise up to the target. -/
theorem screenOffLimits_iff (content : List Byte) :
    ScreenOffLimits content (getScreenOffLimits (some content)) ↔
      Coinitial (seen content) (listed content) ∧
        Cofinal (seen content ∩ Set.Iic screenOffTargetMaxFreq)
          (listed content ∩ Set.Iic screenOffTargetMaxFreq) :=
  extremes_iff (getScreenOffLimits_seen content)

/-- `INT_MAX` is the only listed frequency, and no frequency is found. -/
theorem screenOffLimits_intMax :
    ¬ ScreenOffLimits (['2', '1', '4', '7', '4', '8', '3', '6', '4', '7'].map ascii)
      (getScreenOffLimits
        (some (['2', '1', '4', '7', '4', '8', '3', '6', '4', '7'].map ascii))) := by
  intro limits
  have none_found : getScreenOffLimits
      (some (['2', '1', '4', '7', '4', '8', '3', '6', '4', '7'].map ascii)) = none := by decide
  rw [none_found] at limits
  have empty : listed (['2', '1', '4', '7', '4', '8', '3', '6', '4', '7'].map ascii) = ∅ := limits
  have member : intMax ∈ listed (['2', '1', '4', '7', '4', '8', '3', '6', '4', '7'].map ascii) :=
    ⟨⟨_, List.mem_cons_self, by decide⟩, by decide⟩
  rw [empty] at member
  exact member

/-! ## Plain nodes -/

/-- `strtol` reads a token that does not start with white space as a decimal integer. -/
theorem strtol_eq_decimal {token : List Byte} (starts : token.dropWhile isSpace = token)
    {freq : Int} (positive : 1 ≤ freq) (small : freq < intMax) :
    strtol token = (freq, []) ↔ decimal token = some freq := by
  have bound : intMax = 2 ^ 31 - 1 := by decide
  rw [bound] at small
  rw [strtol, decimal, starts]
  generalize sign token = signed
  obtain ⟨negative, body⟩ := signed
  dsimp only
  generalize digits decimalDigit 10 0 body = number
  obtain ⟨magnitude, count, after⟩ := number
  dsimp only
  by_cases empty : count = 0
  · simp only [empty, if_true, true_or, Prod.mk.injEq]
    constructor
    · rintro ⟨zero, _⟩
      omega
    · intro absent
      cases absent
  · simp only [empty, if_false, false_or]
    cases negative with
    | true =>
        by_cases ended : after = []
        · simp [ended]
          omega
        · simp [ended]
    | false =>
        by_cases ended : after = []
        · simp [ended]
          omega
        · simp [ended]

/-- A node that fits into the buffer, of text without NUL, whose only white space separates
tokens. -/
structure PlainNode (content : List Byte) : Prop where
  fits : content.length < bufSize
  noNul : ∀ byte ∈ content, byte ≠ 0#8
  noSpace : ∀ byte ∈ content, isSpace byte = true → isSeparator byte = true

/-- A plain node is read token by token. -/
theorem PlainNode.readTokens {content : List Byte} (plain : PlainNode content) :
    readTokens content = tokens isSeparator content := by
  have whole : content.take (bufSize - 1) = content :=
    List.take_of_length_le (Nat.le_sub_one_of_lt plain.fits)
  have string : cString content = content := by
    rw [cString, List.takeWhile_eq_self_iff]
    intro byte member
    simpa using plain.noNul byte member
  rw [T00F.Power.readTokens, whole, string]

/-- A token of a plain node starts with no space. -/
theorem PlainNode.starts {content token : List Byte} (plain : PlainNode content)
    (member : token ∈ tokens isSeparator content) : token.dropWhile isSpace = token := by
  cases token with
  | nil => rfl
  | cons byte rest =>
      obtain ⟨inside, free⟩ := of_mem_words member byte List.mem_cons_self
      apply List.dropWhile_cons_of_neg
      intro space
      rw [plain.noSpace byte inside space] at free
      cases free

/-- Of a plain node every listed frequency is seen. -/
theorem PlainNode.seen_eq_listed {content : List Byte} (plain : PlainNode content)
    (unlisted : intMax ∉ listed content) : seen content = listed content := by
  ext freq
  simp only [seen, accepted, plain.readTokens, Set.mem_ofPred_eq]
  constructor
  · rintro ⟨⟨⟨token, member, read⟩, positive, bound⟩, small⟩
    exact ⟨⟨token, member, (strtol_eq_decimal (plain.starts member) positive small).mp read⟩,
      positive, bound⟩
  · rintro ⟨⟨token, member, read⟩, positive, bound⟩
    have small : freq < intMax := by
      apply lt_of_le_of_ne bound
      rintro rfl
      exact unlisted ⟨⟨token, member, read⟩, positive, bound⟩
    exact ⟨⟨⟨token, member, (strtol_eq_decimal (plain.starts member) positive small).mpr read⟩,
      positive, bound⟩, small⟩

/-- The limits of a plain node without `INT_MAX` are as they should be. -/
theorem screenOffLimits_plain {content : List Byte} (plain : PlainNode content)
    (unlisted : intMax ∉ listed content) :
    ScreenOffLimits content (getScreenOffLimits (some content)) := by
  have extremes := getScreenOffLimits_seen content
  rwa [plain.seen_eq_listed unlisted] at extremes

end T00F.Power
