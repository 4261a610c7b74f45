import T00F.Recovery.FwVersion

/-!
# The versions of the device

What `get_current_fw_rev` makes of the version node. Only a blank token makes it fail,
`getCurrentFwRev_numbers` gives the numbers that it reports otherwise, and
`getCurrentFwRev_reported_iff` says for which contents it tells a version record from
anything else.
-/

namespace T00F.Recovery

open Systems

/-- The numbers of a result in the order of their tokens. -/
def FirmwareVersions.numbers (v : FirmwareVersions) : List HalfWord :=
  [v.scubootstrap, v.scu, v.ia32, v.valhooks, v.ifwi, v.chaabi, v.mia].flatMap
    fun version => [version.minor, version.major]

/-- Number `k` of a node with the given token values. -/
def tokenNumber (values : List Word) (k : Nat) : HalfWord :=
  ((values.getD (2 * k + 1) 0#32 <<< 8) ||| values.getD (2 * k) 0#32).setWidth 16

/-- A call that fails leaves the struct of the caller as it is. -/
theorem getCurrentFwRev_failed {node : NodeRead} {v : FirmwareVersions}
    (failed : (getCurrentFwRev node v).1 ≠ 0) : (getCurrentFwRev node v).2 = v := by
  unfold getCurrentFwRev at failed ⊢
  dsimp only at failed ⊢
  split at failed
  next nonzero => rw [if_pos nonzero]
  next zero => exact absurd (not_not.mp zero) failed

theorem getCurrentFwRev_blank {bytes : List Byte} (blank : StopsAtBlank (nodeTokens bytes) 32)
    (v : FirmwareVersions) : (getCurrentFwRev (.content bytes) v).1 ≠ 0 := by
  have failed := (readTokens_code (nodeTokens bytes) (i := 0) (.replicate 32 0#32)).mpr blank
  simp [getCurrentFwRev, readFwRevision, failed]

/-- A node whose reading does not stop at a blank token passes, with zeros for what it
does not provide. -/
theorem getCurrentFwRev_numbers {bytes : List Byte}
    (noBlank : ¬ StopsAtBlank (nodeTokens bytes) 32) (v : FirmwareVersions) :
    (getCurrentFwRev (.content bytes) v).1 = 0 ∧
      (getCurrentFwRev (.content bytes) v).2.numbers =
        (List.range 14).map (tokenNumber (parsedTokens (nodeTokens bytes))) := by
  have code := readTokens_code (nodeTokens bytes) (i := 0) (.replicate 32 0#32)
  have passed := not_not.mp (mt code.mp noBlank)
  have value := readTokens_get (nodeTokens bytes) (i := 0) (.replicate 32 0#32)
  simp only [getCurrentFwRev, readFwRevision, passed, ne_eq, not_true_eq_false, if_false,
    revisionField, value, true_and]
  simp [FirmwareVersions.numbers, tokenNumber, List.range_succ]

/-! ## Version records -/

/-- The node holds the tokens of all numbers, and every token that is examined, the first
32 at most, is a hexadecimal number. -/
structure VersionRecord (bytes : List Byte) : Prop where
  enough : 28 ≤ (nodeTokens bytes).length
  parsed : ∀ text ∈ (nodeTokens bytes).take 32, ∃ value, sscanfHex text = .matched value

/-- Number `k` is the low half of `token[2k+1] << 8 | token[2k]`. -/
def FromTokens (bytes : List Byte) (k : Nat) (number : HalfWord) : Prop :=
  ∃ lowText highText low high,
    (nodeTokens bytes)[2 * k]? = some lowText ∧ sscanfHex lowText = .matched low ∧
    (nodeTokens bytes)[2 * k + 1]? = some highText ∧ sscanfHex highText = .matched high ∧
    number = ((high <<< 8) ||| low).setWidth 16

/-- A version record is reported, and anything else is an error that leaves the struct
of the caller as it is. -/
inductive Reported (bytes : List Byte) (v : FirmwareVersions) : Int × FirmwareVersions → Prop where
  | versions {after : FirmwareVersions} (record : VersionRecord bytes)
      (numbers : ∀ k number, after.numbers[k]? = some number → FromTokens bytes k number) :
      Reported bytes v (0, after)
  | failed {ret : Int} (noRecord : ¬ VersionRecord bytes) (nonzero : ret ≠ 0) :
      Reported bytes v (ret, v)

/-- A record has no blank token among those that are examined. -/
theorem VersionRecord.noBlank {bytes : List Byte} (record : VersionRecord bytes) :
    ¬ StopsAtBlank (nodeTokens bytes) 32 := by
  rintro ⟨early, text, present, blank⟩
  have examined : text ∈ (nodeTokens bytes).take 32 := by
    rw [← List.getElem?_take_of_lt early] at present
    exact List.mem_of_getElem? present
  obtain ⟨value, parsed⟩ := record.parsed text examined
  cases blank.symm.trans parsed

/-- All numbers of a record come from its tokens. -/
theorem VersionRecord.fromTokens {bytes : List Byte} (record : VersionRecord bytes) {k : Nat}
    (inside : k < 14) : FromTokens bytes k (tokenNumber (parsedTokens (nodeTokens bytes)) k) := by
  have enough : 28 ≤ (parsedTokens (nodeTokens bytes)).length := by
    rw [le_length_parsedTokens_iff]
    intro index bound
    have present := List.getElem?_eq_getElem (Nat.lt_of_lt_of_le bound record.enough)
    have examined : index < 32 := by omega
    obtain ⟨value, parsed⟩ := record.parsed _
      (List.mem_of_getElem? (by rwa [List.getElem?_take_of_lt examined]))
    exact ⟨_, value, present, parsed⟩
  have low := List.getElem?_eq_getElem
    (show 2 * k < (parsedTokens (nodeTokens bytes)).length by omega)
  have high := List.getElem?_eq_getElem
    (show 2 * k + 1 < (parsedTokens (nodeTokens bytes)).length by omega)
  obtain ⟨lowText, lowPresent, lowParsed⟩ := parsedTokens_getElem? low
  obtain ⟨highText, highPresent, highParsed⟩ := parsedTokens_getElem? high
  refine ⟨lowText, highText, _, _, lowPresent, lowParsed, highPresent, highParsed, ?_⟩
  rw [tokenNumber, List.getD_eq_getElem?_getD, List.getD_eq_getElem?_getD, low, high,
    Option.getD_some, Option.getD_some]

/-- Version records are reported and everything else is rejected exactly if the content is
a version record or its first token that is no number is blank. -/
theorem getCurrentFwRev_reported_iff (bytes : List Byte) (v : FirmwareVersions) :
    Reported bytes v (getCurrentFwRev (.content bytes) v) ↔
      VersionRecord bytes ∨ StopsAtBlank (nodeTokens bytes) 32 := by
  by_cases blank : StopsAtBlank (nodeTokens bytes) 32
  · have nonzero := getCurrentFwRev_blank blank v
    have same := getCurrentFwRev_failed nonzero
    have noRecord : ¬ VersionRecord bytes := fun record => record.noBlank blank
    generalize getCurrentFwRev (.content bytes) v = result at nonzero same ⊢
    obtain ⟨ret, after⟩ := result
    cases same
    exact iff_of_true (.failed noRecord nonzero) (Or.inr blank)
  · obtain ⟨zero, numbers⟩ := getCurrentFwRev_numbers blank v
    generalize getCurrentFwRev (.content bytes) v = result at zero numbers ⊢
    obtain ⟨ret, after⟩ := result
    cases zero
    constructor
    · intro reported
      cases reported with
      | versions record _ => exact Or.inl record
      | failed _ nonzero => exact absurd rfl nonzero
    · intro condition
      have record := condition.resolve_right blank
      refine .versions record fun k number entry => ?_
      rw [numbers, List.getElem?_map] at entry
      obtain ⟨_, inRange, rfl⟩ := Option.map_eq_some_iff.mp entry
      obtain ⟨inside, rfl⟩ := List.getElem?_eq_some_iff.mp inRange
      rw [List.length_range] at inside
      rw [List.getElem_range]
      exact record.fromTokens inside

/-- For a node that holds no number at all, versions of 0 are reported. -/
theorem getCurrentFwRev_notANumber :
    ¬ Reported (['N', '/', 'A', '\n'].map ascii) .zero
      (getCurrentFwRev (.content (['N', '/', 'A', '\n'].map ascii)) .zero) := by
  intro reported
  have zero : (getCurrentFwRev (.content (['N', '/', 'A', '\n'].map ascii)) .zero).1 = 0 := by
    decide
  generalize getCurrentFwRev _ _ = result at zero reported
  cases reported with
  | versions record _ => exact absurd record.enough (by decide)
  | failed _ nonzero => exact nonzero zero

end T00F.Recovery
