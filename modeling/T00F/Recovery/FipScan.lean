import T00F.Recovery.FwVersion

/-!
# What the scan of an image finds

`getImageFwRev_finds_iff` says for which sizes `get_image_fw_rev` reports success
exactly if there is a FIP header, `getImageFwRev_reports` that the versions it reports
are the last non-zero ones of the headers in order.
-/

namespace T00F.Recovery

open Systems

/-- The scan ends without a fault, and with 0 exactly if a complete header starts at a
multiple of four. -/
def FindsHeader (data : List Byte) : Prop :=
  ∃ ret v, getImageFwRev data = .ok (ret, v) ∧
    (ret = 0 ↔ ∃ offset, 4 ∣ offset ∧ offset + sizeofFipHeader ≤ data.length ∧
      wordOf data offset = fipPattern)

/-- A header is found exactly when the pattern stands at an aligned offset with room behind it. -/
theorem fipHeaders_ne_nil {data : List Byte} : fipHeaders data ≠ [] ↔
    ∃ offset, 4 ∣ offset ∧ offset + sizeofFipHeader ≤ data.length ∧
      wordOf data offset = fipPattern := by
  rw [sizeofFipHeader_eq]
  constructor
  · intro nonempty
    obtain ⟨offset, member⟩ := List.exists_mem_of_ne_nil _ nonempty
    exact ⟨offset, mem_fipHeaders.mp member⟩
  · rintro ⟨offset, header⟩
    exact List.ne_nil_of_mem (mem_fipHeaders.mpr header)

/-- Where no header fits, the scan returns 0 without having found one. -/
theorem not_findsHeader_of_short {data : List Byte} (short : data.length < sizeofFipHeader) :
    ¬ FindsHeader data := by
  rintro ⟨ret, v, scanned, found⟩
  have short' : ¬ 352 ≤ data.length := by
    rw [sizeofFipHeader_eq] at short
    omega
  rw [getImageFwRev_eq, if_neg fun absent => short' absent.1] at scanned
  injection scanned with same
  injection same with success _
  obtain ⟨offset, _, room, _⟩ := found.mp success.symm
  omega

/-- On an image with room for a header the outcome tells whether there is one. -/
theorem findsHeader_of_room {data : List Byte} (room : sizeofFipHeader ≤ data.length) :
    FindsHeader data := by
  rw [sizeofFipHeader_eq] at room
  rw [FindsHeader, getImageFwRev_eq, ← fipHeaders_ne_nil]
  by_cases absent : fipHeaders data = []
  · exact ⟨-1, .zero, if_pos ⟨room, absent⟩, by simp [absent]⟩
  · exact ⟨0, imageVersions data, if_neg fun none => absent none.2, by simp [absent]⟩

/-- The scan reports success exactly if there is a header, unless the image is shorter
than a header: then it reports success in any case. -/
theorem getImageFwRev_finds_iff (data : List Byte) :
    FindsHeader data ↔ sizeofFipHeader ≤ data.length := by
  constructor
  · intro finds
    by_contra short
    exact not_findsHeader_of_short (Nat.lt_of_not_le short) finds
  · exact findsHeader_of_room

/-- A hundred zero bytes hold no header, and the scan reports success. -/
theorem getImageFwRev_short : ¬ FindsHeader (List.replicate 100 0#8) :=
  not_findsHeader_of_short (by rw [List.length_replicate, sizeofFipHeader_eq]; decide)

/-! ## The reported versions -/

/-- The last value that is not zero, or zero. -/
def lastNonZero (values : List HalfWord) : HalfWord :=
  (values.filter (· ≠ 0#16)).getLast?.getD 0#16

/-- The members that are reported, and where. -/
def reportedMembers : List (FipMember × (FirmwareVersions → FwVersion)) :=
  [(.scucRev, FirmwareVersions.scu), (.ia32Rev, FirmwareVersions.ia32),
    (.oemRev, FirmwareVersions.valhooks), (.ifwiRev, FirmwareVersions.ifwi),
    (.ch00Rev, FirmwareVersions.chaabi), (.miaRev, FirmwareVersions.mia)]

/-- Of a part that is replaced unless the new one is 0, the last non-zero one stays. -/
theorem foldl_updateNonNull {part : FwVersion → HalfWord}
    (replaced : ∀ version block : FwVersion, part (version.updateNonNull block) =
      if part block ≠ 0#16 then part block else part version)
    (blocks : List FwVersion) (version : FwVersion) :
    part (blocks.foldl FwVersion.updateNonNull version) =
      ((blocks.map part).filter (· ≠ 0#16)).getLast?.getD (part version) := by
  induction blocks generalizing version with
  | nil => rfl
  | cons block rest ih =>
      rw [List.foldl_cons, ih, replaced, List.map_cons]
      by_cases zero : part block = 0#16
      · simp [zero]
      · simp [zero, List.getLast?_cons]

/-- Each reported member is a fold of its own. -/
theorem foldl_update {data : List Byte} {entry : FipMember × (FirmwareVersions → FwVersion)}
    (reported : entry ∈ reportedMembers) (offsets : List Nat) (v : FirmwareVersions) :
    entry.2 (offsets.foldl (FirmwareVersions.update data) v) =
      (offsets.map fun offset => fipBlock data offset entry.1).foldl FwVersion.updateNonNull
        (entry.2 v) := by
  induction offsets generalizing v with
  | nil => rfl
  | cons offset rest ih =>
      have one : entry.2 (v.update data offset) =
          (entry.2 v).updateNonNull (fipBlock data offset entry.1) := by
        simp only [reportedMembers, List.mem_cons, List.not_mem_nil, or_false] at reported
        rcases reported with rfl | rfl | rfl | rfl | rfl | rfl
        all_goals rfl
      rw [List.foldl_cons, ih, one, List.map_cons, List.foldl_cons]

/-- No header reports a version for the bootstrap, so it stays zero. -/
theorem imageVersions_scubootstrap (data : List Byte) :
    (imageVersions data).scubootstrap = ⟨0#16, 0#16⟩ := by
  have kept : ∀ (offsets : List Nat) v, v.scubootstrap = (⟨0#16, 0#16⟩ : FwVersion) →
      (offsets.foldl (FirmwareVersions.update data) v).scubootstrap = ⟨0#16, 0#16⟩ := by
    intro offsets
    induction offsets with
    | nil => exact fun _ zero => zero
    | cons offset rest ih => exact fun v _ => ih (v.update data offset) rfl
  exact kept (fipHeaders data) .zero rfl

/-- The headers are found in the order of their offsets. -/
theorem fipHeaders_sorted (data : List Byte) : (fipHeaders data).Pairwise (· < ·) := by
  apply List.Pairwise.filter
  rw [List.pairwise_map]
  apply List.Pairwise.imp _ (List.pairwise_lt_range' ..)
  intro first second before
  omega

/-- Each reported number is the last non-zero value of its field among the complete
headers at multiples of four, in increasing order. -/
def ReportsLast (data : List Byte) (v : FirmwareVersions) : Prop :=
  ∃ headers : List Nat, headers.Pairwise (· < ·) ∧
    (∀ offset, offset ∈ headers ↔ 4 ∣ offset ∧ offset + sizeofFipHeader ≤ data.length ∧
      wordOf data offset = fipPattern) ∧
    v.scubootstrap = ⟨0#16, 0#16⟩ ∧
    ∀ entry ∈ reportedMembers,
      (entry.2 v).minor =
        lastNonZero (headers.map fun offset => (fipBlock data offset entry.1).minor) ∧
      (entry.2 v).major =
        lastNonZero (headers.map fun offset => (fipBlock data offset entry.1).major)

/-- Before any header every reported version is zero. -/
theorem zero_reported {entry : FipMember × (FirmwareVersions → FwVersion)}
    (reported : entry ∈ reportedMembers) : entry.2 .zero = ⟨0#16, 0#16⟩ := by
  simp only [reportedMembers, List.mem_cons, List.not_mem_nil, or_false] at reported
  rcases reported with rfl | rfl | rfl | rfl | rfl | rfl
  all_goals rfl

/-- A successful scan reports the last non-zero value of each field. -/
theorem getImageFwRev_reports {data : List Byte} {v : FirmwareVersions}
    (found : getImageFwRev data = .ok (0, v)) : ReportsLast data v := by
  rw [getImageFwRev_eq] at found
  split at found
  · injection found with same
    cases same
  · injection found with same
    injection same with _ same
    subst same
    refine ⟨fipHeaders data, fipHeaders_sorted data, ?_, imageVersions_scubootstrap data, ?_⟩
    · intro offset
      rw [sizeofFipHeader_eq]
      exact mem_fipHeaders
    · intro entry reported
      rw [imageVersions, foldl_update reported, zero_reported reported]
      constructor
      · rw [@foldl_updateNonNull FwVersion.minor fun _ _ => rfl, List.map_map]
        rfl
      · rw [@foldl_updateNonNull FwVersion.major fun _ _ => rfl, List.map_map]
        rfl

/-- The magic, followed by ones up to the end of the header. -/
def onesHeader : List Byte := [0x24#8, 0x46#8, 0x49#8, 0x50#8] ++ List.replicate 348 1#8

theorem length_onesHeader : onesHeader.length = 352 := by
  rw [onesHeader, List.length_append, List.length_replicate]
  rfl

theorem getImageFwRev_reports_ones : ReportsLast onesHeader (imageVersions onesHeader) := by
  have header : 0 ∈ fipHeaders onesHeader :=
    mem_fipHeaders.mpr ⟨Nat.dvd_zero 4, Nat.le_of_eq length_onesHeader.symm, rfl⟩
  apply getImageFwRev_reports
  rw [getImageFwRev_eq, if_neg fun absent => List.ne_nil_of_mem header absent.2]

end T00F.Recovery
