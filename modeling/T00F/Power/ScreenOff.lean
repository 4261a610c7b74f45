import T00F.Systems.Text

/-!
# Frequency limits with the screen off

`get_screen_off_limits` of `power.cpp` reads the table of available frequencies.
`getScreenOffLimits_le` says how the two limits that it finds lie.
-/

namespace T00F.Power

open Systems

/-- `BUF_SIZE` -/
def bufSize : Nat := 80

/-- `SCREEN_OFF_TARGET_MAX_FREQ` -/
def screenOffTargetMaxFreq : Int := 933000

/-- `INT_MAX` -/
def intMax : Int := 2147483647

/-- `sysfs_read`: the buffer before its final NUL, or none if the node cannot be opened
or read. -/
def sysfsRead (node : Option (List Byte)) : Option (List Byte) :=
  node.map fun content => content.take (bufSize - 1)

/-- The loop over the tokens, from `lowest_freq` and `capped_freq` on. -/
def scanFreqs : List (List Byte) → Int → Int → Int × Int
  | [], lowestFreq, cappedFreq => (lowestFreq, cappedFreq)
  | token :: rest, lowestFreq, cappedFreq =>
      let (freq, endPtr) := strtol token
      if token = [] ∨ endPtr ≠ [] ∨ freq ≤ 0 ∨ freq > intMax then
        scanFreqs rest lowestFreq cappedFreq
      else
        scanFreqs rest (if freq < lowestFreq then freq else lowestFreq)
          (if freq ≤ screenOffTargetMaxFreq ∧ freq > cappedFreq then freq else cappedFreq)

/-- `get_screen_off_limits`: the limits, or none if it returns `false`. -/
def getScreenOffLimits (node : Option (List Byte)) : Option (Int × Int) := do
  let buf ← sysfsRead node
  let texts := tokens (fun byte => byte == ascii ' ' || byte == 0x0a#8) (cString buf)
  let (lowestFreq, cappedFreq) := scanFreqs texts intMax 0
  if lowestFreq = intMax then none
  else some (lowestFreq, if cappedFreq ≠ 0 then cappedFreq else lowestFreq)

/-- What the loop keeps: a frequency below the target is not lost. -/
structure FreqsFound (lowestFreq cappedFreq : Int) : Prop where
  capped_nonneg : 0 ≤ cappedFreq
  capped_le : cappedFreq ≤ screenOffTargetMaxFreq
  ordered : cappedFreq = 0 ∨ lowestFreq ≤ cappedFreq
  found : lowestFreq ≤ screenOffTargetMaxFreq → 0 < cappedFreq

/-- The scan keeps what it knows of the frequencies found so far. -/
theorem scanFreqs_found (texts : List (List Byte)) {lowestFreq cappedFreq : Int}
    (found : FreqsFound lowestFreq cappedFreq) :
    FreqsFound (scanFreqs texts lowestFreq cappedFreq).1
      (scanFreqs texts lowestFreq cappedFreq).2 := by
  induction texts generalizing lowestFreq cappedFreq with
  | nil => exact found
  | cons token rest ih =>
      rw [scanFreqs]
      dsimp only
      split
      · exact ih found
      next accepted =>
        apply ih
        obtain ⟨capped_nonneg, capped_le, ordered, found⟩ := found
        constructor
        all_goals split_ifs <;> omega

/-- The limits are in order, and the upper one is below the target if the lower one is. -/
theorem getScreenOffLimits_le {node : Option (List Byte)} {minFreq maxFreq : Int}
    (limits : getScreenOffLimits node = some (minFreq, maxFreq)) :
    minFreq ≤ maxFreq ∧ (minFreq ≤ screenOffTargetMaxFreq → maxFreq ≤ screenOffTargetMaxFreq) := by
  obtain ⟨buf, _, scanned⟩ := Option.bind_eq_some_iff.mp limits
  have start : FreqsFound intMax 0 := by
    constructor
    · exact le_refl 0
    · decide
    · exact Or.inl rfl
    · intro low
      exact absurd low (by decide)
  have found := scanFreqs_found
    (tokens (fun byte => byte == ascii ' ' || byte == 0x0a#8) (cString buf)) start
  dsimp only at scanned
  split at scanned
  · cases scanned
  next some_listed =>
    cases scanned
    obtain ⟨capped_nonneg, capped_le, ordered, found⟩ := found
    split_ifs <;> omega

end T00F.Power
