import T00F.Recovery.Emmc
import T00F.Systems.Bytes
import T00F.Systems.Text

/-!
# Firmware versions

`fw_version_check.cpp`: the versions of an image come from its FIP headers, the
versions of the device from the tokens of a kernel node. Reads of the image and
the size counter are checked, so that running past the buffer or wrapping the
counter is a `Fault` of the model. `getImageFwRev_eq` gives the result of the
scan as a fold over the headers of the image, `readTokens_eq` the result of the
token loop as a function of the parsed tokens.
-/

namespace T00F.Recovery

open Systems

/-- `struct fw_version` -/
structure FwVersion where
  major : HalfWord
  minor : HalfWord
deriving DecidableEq, Repr

/-- `struct firmware_versions` -/
structure FirmwareVersions where
  scubootstrap : FwVersion
  scu : FwVersion
  ia32 : FwVersion
  valhooks : FwVersion
  ifwi : FwVersion
  chaabi : FwVersion
  mia : FwVersion
deriving DecidableEq, Repr

/-- All versions cleared, as by `memset`. -/
def FirmwareVersions.zero : FirmwareVersions :=
  let none : FwVersion := ⟨0#16, 0#16⟩
  ⟨none, none, none, none, none, none, none⟩

/-! ## FIP headers -/

/-- The members of `struct FIP_header` behind `FIP_SIG`. -/
inductive FipMember where
  | umipRev | spatRev | spctRev | rpchRev | ch00Rev | mipdRev | mipnRev | scucRev | hvmRev
  | miaRev | ia32Rev | oemRev | vedRev | vecRev | mosRev | posRev | cosRev
  | ch01Rev | ch02Rev | ch03Rev | ch04Rev | ch05Rev | ch06Rev | ch07Rev | ch08Rev | ch09Rev
  | ch10Rev | ch11Rev | ch12Rev | ch13Rev | ch14Rev | ch15Rev
  | dnxRev | reserved0Rev | reserved1Rev | ifwiRev
deriving DecidableEq

/-- The members in declaration order, with the size of `struct fip_version_block`
(8 bytes) or `struct fip_version_block_chxx` (12 bytes). -/
def fipLayout : List (FipMember × Nat) :=
  ([.umipRev, .spatRev, .spctRev, .rpchRev, .ch00Rev, .mipdRev, .mipnRev, .scucRev, .hvmRev,
    .miaRev, .ia32Rev, .oemRev, .vedRev, .vecRev, .mosRev, .posRev, .cosRev] : List FipMember).map (·, 8) ++
  ([.ch01Rev, .ch02Rev, .ch03Rev, .ch04Rev, .ch05Rev, .ch06Rev, .ch07Rev, .ch08Rev, .ch09Rev,
    .ch10Rev, .ch11Rev, .ch12Rev, .ch13Rev, .ch14Rev, .ch15Rev] : List FipMember).map (·, 12) ++
  ([.dnxRev, .reserved0Rev, .reserved1Rev, .ifwiRev] : List FipMember).map (·, 8)

/-- Offset of a member: `FIP_SIG` and all earlier members precede it. -/
def FipMember.offset (member : FipMember) : Nat :=
  4 + ((fipLayout.takeWhile fun entry => entry.1 != member).map (·.2)).sum

/-- `sizeof(struct FIP_header)` -/
def sizeofFipHeader : Nat := 4 + (fipLayout.map (·.2)).sum

theorem sizeofFipHeader_eq : sizeofFipHeader = 352 := by decide

/-- `FIP_PATTERN`, the bytes `$FIP`. -/
def fipPattern : Word := 0x50494624#32

/-- What an unchecked C access would do wrong. -/
inductive Fault where
  | outOfBounds
  | wrapped
deriving DecidableEq, Repr

/-- The version block of a member of the header at `offset`. -/
def fipBlock (data : List Byte) (offset : Nat) (member : FipMember) : FwVersion :=
  let block := offset + member.offset
  { minor := .ofBytes (data.getD block 0#8) (data.getD (block + 1) 0#8)
    major := .ofBytes (data.getD (block + 2) 0#8) (data.getD (block + 3) 0#8) }

/-- Fail unless the `count` bytes from `offset` on lie in the buffer. -/
def checkRead (data : List Byte) (offset count : Nat) : Except Fault Unit :=
  if offset + count ≤ data.length then .ok () else .error .outOfBounds

/-- Each number of a version is replaced unless the new one is 0. -/
def FwVersion.updateNonNull (version block : FwVersion) : FwVersion where
  minor := if block.minor ≠ 0#16 then block.minor else version.minor
  major := if block.major ≠ 0#16 then block.major else version.major

/-- The versions after reading the header at `offset`. -/
def FirmwareVersions.update (data : List Byte) (v : FirmwareVersions) (offset : Nat) :
    FirmwareVersions where
  scubootstrap := ⟨0#16, 0#16⟩
  scu := v.scu.updateNonNull (fipBlock data offset .scucRev)
  ia32 := v.ia32.updateNonNull (fipBlock data offset .ia32Rev)
  valhooks := v.valhooks.updateNonNull (fipBlock data offset .oemRev)
  ifwi := v.ifwi.updateNonNull (fipBlock data offset .ifwiRev)
  chaabi := v.chaabi.updateNonNull (fipBlock data offset .ch00Rev)
  mia := v.mia.updateNonNull (fipBlock data offset .miaRev)

/-- The inner loop: scan for the FIP magic from `databytes` on. -/
def scanMagic (data : List Byte) (databytes sz : Nat) (magicFound : Bool) :
    Except Fault (Nat × Nat × Bool) :=
  if sizeofFipHeader ≤ sz then
    match checkRead data databytes 4 with
    | .error fault => .error fault
    | .ok () =>
        if wordOf data databytes = fipPattern then .ok (databytes, sz, true)
        else if 4 ≤ sz then scanMagic data (databytes + 4) (sz - 4) magicFound
        else .error .wrapped
  else .ok (databytes, sz, magicFound)
termination_by sz

/-- The scan only moves forward. -/
theorem scanMagic_size_le {data : List Byte} {databytes sz : Nat} {magicFound : Bool}
    {databytes' sz' : Nat} {found : Bool}
    (scanned : scanMagic data databytes sz magicFound = .ok (databytes', sz', found)) :
    sz' ≤ sz := by
  fun_induction scanMagic data databytes sz magicFound with
  | case1 => cases scanned
  | case2 => grind
  | case3 databytes sz _ _ _ _ ih => exact Nat.le_trans (ih scanned) (Nat.sub_le sz 4)
  | case4 => cases scanned
  | case5 => grind

/-- The outer loop over the headers. -/
def scanHeaders (data : List Byte) (databytes sz : Nat) (magicFound : Bool)
    (v : FirmwareVersions) : Except Fault (Int × FirmwareVersions) :=
  if sizeofFipHeader ≤ sz then
    match _scanned : scanMagic data databytes sz magicFound with
    | .error fault => .error fault
    | .ok (databytes', sz', found) =>
        if found = false then .ok (-1, v)
        else if sz' < sizeofFipHeader then .ok (0, v)
        else
          match checkRead data databytes' sizeofFipHeader with
          | .error fault => .error fault
          | .ok () =>
              if 4 ≤ sz' then
                scanHeaders data (databytes' + 4) (sz' - 4) found (v.update data databytes')
              else .error .wrapped
  else .ok (0, v)
termination_by sz
decreasing_by
  have := scanMagic_size_le _scanned
  omega

/-- `get_image_fw_rev` for a buffer of `data.length` bytes and a result struct. -/
def getImageFwRev (data : List Byte) : Except Fault (Int × FirmwareVersions) :=
  scanHeaders data 0 data.length false .zero

/-! ## The headers of an image -/

/-- A complete FIP header starts at `offset`. -/
def isFipHeader (data : List Byte) (offset : Nat) : Bool :=
  decide (offset + sizeofFipHeader ≤ data.length) && wordOf data offset == fipPattern

/-- The offsets of the complete headers from word `index` on, in increasing order. -/
def headersFrom (data : List Byte) (index : Nat) : List Nat :=
  ((List.range' index (data.length / 4 - index)).map (4 * ·)).filter (isFipHeader data)

/-- The offsets of all complete headers. -/
def fipHeaders (data : List Byte) : List Nat := headersFrom data 0

/-- The versions that the headers of an image add up to. -/
def imageVersions (data : List Byte) : FirmwareVersions :=
  (fipHeaders data).foldl (FirmwareVersions.update data) .zero

/-- A header is a pattern with room for the structure behind it. -/
theorem isFipHeader_iff {data : List Byte} {offset : Nat} :
    isFipHeader data offset = true ↔
      offset + 352 ≤ data.length ∧ wordOf data offset = fipPattern := by
  simp [isFipHeader, sizeofFipHeader_eq]

/-- The headers listed are the aligned offsets that hold one. -/
theorem mem_fipHeaders {data : List Byte} {offset : Nat} :
    offset ∈ fipHeaders data ↔
      4 ∣ offset ∧ offset + 352 ≤ data.length ∧ wordOf data offset = fipPattern := by
  simp only [fipHeaders, headersFrom, List.mem_filter, List.mem_map, List.mem_range'_1,
    isFipHeader_iff]
  constructor
  · rintro ⟨⟨index, _, rfl⟩, header⟩
    exact ⟨Nat.dvd_mul_right 4 index, header⟩
  · rintro ⟨⟨index, rfl⟩, header⟩
    exact ⟨⟨index, by omega, rfl⟩, header⟩

/-- A header at the cursor is listed first. -/
theorem headersFrom_cons {data : List Byte} {index : Nat}
    (header : isFipHeader data (4 * index) = true) :
    headersFrom data index = 4 * index :: headersFrom data (index + 1) := by
  have bound := (isFipHeader_iff.mp header).1
  have count : data.length / 4 - index = (data.length / 4 - (index + 1)) + 1 := by omega
  rw [headersFrom, count, List.range'_succ, List.map_cons, List.filter_cons_of_pos header]
  rfl

/-- Without a header at the cursor the scan goes on at the next word. -/
theorem headersFrom_skip {data : List Byte} {index : Nat}
    (noHeader : isFipHeader data (4 * index) = false) :
    headersFrom data index = headersFrom data (index + 1) := by
  by_cases inside : index < data.length / 4
  · have count : data.length / 4 - index = (data.length / 4 - (index + 1)) + 1 := by omega
    rw [headersFrom, count, List.range'_succ, List.map_cons,
      List.filter_cons_of_neg (by simp [noHeader])]
    rfl
  · have here : data.length / 4 - index = 0 := by omega
    have next : data.length / 4 - (index + 1) = 0 := by omega
    simp [headersFrom, here, next]

/-- Behind the last offset with room nothing is listed. -/
theorem headersFrom_eq_nil {data : List Byte} {index : Nat}
    (short : data.length < 4 * index + 352) : headersFrom data index = [] := by
  simp only [headersFrom, List.filter_eq_nil_iff, List.mem_map, List.mem_range'_1, isFipHeader_iff]
  rintro _ ⟨later, ⟨low, _⟩, rfl⟩ header
  omega

/-- The inner scan stops at the next header, or runs out of room for one. -/
theorem scanMagic_spec {data : List Byte} {index sz : Nat} (grid : 4 * index + sz = data.length)
    (magicFound : Bool) :
    (headersFrom data index = [] ∧ ∃ databytes sz',
      scanMagic data (4 * index) sz magicFound = .ok (databytes, sz', magicFound) ∧ sz' < 352) ∨
    ∃ next, index ≤ next ∧ isFipHeader data (4 * next) = true ∧
      headersFrom data index = headersFrom data next ∧
      scanMagic data (4 * index) sz magicFound = .ok (4 * next, data.length - 4 * next, true) := by
  induction sz using Nat.strong_induction_on generalizing index with
  | _ sz ih =>
      rw [scanMagic, sizeofFipHeader_eq]
      by_cases room : 352 ≤ sz
      · have readable : checkRead data (4 * index) 4 = .ok () := if_pos (by omega)
        rw [if_pos room, readable]
        by_cases magic : wordOf data (4 * index) = fipPattern
        · right
          refine ⟨index, Nat.le_refl index, isFipHeader_iff.mpr ⟨by omega, magic⟩, rfl, ?_⟩
          rw [show data.length - 4 * index = sz by omega]
          simp [magic]
        · have noHeader : isFipHeader data (4 * index) = false :=
            Bool.eq_false_iff.mpr fun header => magic (isFipHeader_iff.mp header).2
          simp only [magic, if_false, show 4 ≤ sz by omega, if_true]
          rw [headersFrom_skip noHeader]
          have shorter : 4 * (index + 1) + (sz - 4) = data.length := by omega
          rcases ih (sz - 4) (by omega) shorter with none | found
          · exact Or.inl none
          · obtain ⟨next, later, found⟩ := found
            exact Or.inr ⟨next, by omega, found⟩
      · left
        rw [if_neg room]
        exact ⟨headersFrom_eq_nil (by omega), 4 * index, sz, rfl, by omega⟩

/-- The outer loop folds over the remaining headers. It fails only if there is
room for a header, none is there, and none was found before. -/
theorem scanHeaders_eq {data : List Byte} {index sz : Nat} (grid : 4 * index + sz = data.length)
    (magicFound : Bool) (v : FirmwareVersions) :
    scanHeaders data (4 * index) sz magicFound v =
      if 352 ≤ sz ∧ headersFrom data index = [] ∧ magicFound = false then .ok (-1, v)
      else .ok (0, (headersFrom data index).foldl (FirmwareVersions.update data) v) := by
  induction sz using Nat.strong_induction_on generalizing index magicFound v with
  | _ sz ih =>
      rw [scanHeaders, sizeofFipHeader_eq]
      by_cases room : 352 ≤ sz
      · rw [if_pos room]
        rcases scanMagic_spec grid magicFound with ⟨noHeader, databytes, sz', scanned, short⟩ |
          ⟨next, later, header, same, scanned⟩
        · split
          next fault failed => cases scanned.symm.trans failed
          next databytes' size found ended =>
            cases scanned.symm.trans ended
            simp only [noHeader, room, true_and, List.foldl_nil, short, if_true]
        · have bound := (isFipHeader_iff.mp header).1
          have readable : checkRead data (4 * next) 352 = .ok () := if_pos bound
          have shorter : 4 * (next + 1) + (data.length - 4 * next - 4) = data.length := by omega
          have rest := ih (data.length - 4 * next - 4) (by omega) shorter
            true (v.update data (4 * next))
          have nonempty : headersFrom data index = 4 * next :: headersFrom data (next + 1) := by
            rw [same, headersFrom_cons header]
          split
          next fault failed => cases scanned.symm.trans failed
          next databytes' size found ended =>
            cases scanned.symm.trans ended
            rw [Nat.mul_succ, if_neg (by simp)] at rest
            rw [if_neg (by simp), if_neg (by omega), readable]
            dsimp only
            rw [if_pos (by omega), rest, if_neg (by simp [nonempty]), nonempty, List.foldl_cons]
      · rw [if_neg room, if_neg (by omega), headersFrom_eq_nil (by omega)]
        rfl

/-- The scan never reads past the image and never wraps its counter. It fails
exactly when the image has room for a header but holds none. -/
theorem getImageFwRev_eq (data : List Byte) :
    getImageFwRev data =
      if 352 ≤ data.length ∧ fipHeaders data = [] then .ok (-1, .zero)
      else .ok (0, imageVersions data) := by
  have whole : 4 * 0 + data.length = data.length := by omega
  have scanned := scanHeaders_eq whole false .zero
  by_cases noHeader : 352 ≤ data.length ∧ fipHeaders data = []
  · rw [if_pos noHeader]
    exact scanned.trans (if_pos ⟨noHeader.1, noHeader.2, rfl⟩)
  · rw [if_neg noHeader]
    exact scanned.trans (if_neg fun none => noHeader ⟨none.1, none.2.1⟩)

/-! ## The version node -/

/-- `READ_SZ` -/
def readSz : Nat := 256

/-- What opening `DEVICE_NAME` and reading it once gives; a failed call returns -1. -/
inductive NodeRead where
  | openFailed
  | readFailed
  | content (bytes : List Byte)
deriving DecidableEq, Repr

/-- `unsigned int fw_revision[SCU_IPC_VERSION_LEN_LONG]` -/
abbrev FwRevision := Vector Word 32

/-- The token loop from token number `i` on. At label `err` the function returns
what `sscanf` returned, which is 0 for a token that is no number. -/
def readTokens : List (List Byte) → Nat → FwRevision → Int × FwRevision
  | [], _, fwRevision => (0, fwRevision)
  | p :: rest, i, fwRevision =>
      if i < 32 then
        match sscanfHex p with
        | .matched value => readTokens rest (i + 1) (fwRevision.setIfInBounds i value)
        | .mismatch => (0, fwRevision)
        | .endOfInput => (-1, fwRevision)
      else (0, fwRevision)

/-- The tokens of the node, of which one `read` returns `READ_SZ - 1` bytes at most. -/
def nodeTokens (bytes : List Byte) : List (List Byte) :=
  tokens (· == ascii ' ') (cString (bytes.take (readSz - 1)))

/-- `read_fw_revision` -/
def readFwRevision (node : NodeRead) (fwRevision : FwRevision) : Int × FwRevision :=
  match node with
  | .openFailed => (-1, fwRevision)
  | .readFailed => (-1, fwRevision)
  | .content bytes => readTokens (nodeTokens bytes) 0 fwRevision

/-- `fw_revision[high] << 8 | fw_revision[low]`, stored in 16 bits. -/
def revisionField (fwRevision : FwRevision) (high low : Fin 32) : HalfWord :=
  ((fwRevision[high] <<< 8) ||| fwRevision[low]).setWidth 16

/-- `get_current_fw_rev` -/
def getCurrentFwRev (node : NodeRead) (v : FirmwareVersions) : Int × FirmwareVersions :=
  let (ret, fwRevision) := readFwRevision node (.replicate 32 0#32)
  if ret ≠ 0 then (ret, v)
  else
    (ret,
      { scubootstrap :=
          { minor := revisionField fwRevision 1 0, major := revisionField fwRevision 3 2 }
        scu := { minor := revisionField fwRevision 5 4, major := revisionField fwRevision 7 6 }
        ia32 := { minor := revisionField fwRevision 9 8, major := revisionField fwRevision 11 10 }
        valhooks :=
          { minor := revisionField fwRevision 13 12, major := revisionField fwRevision 15 14 }
        ifwi := { minor := revisionField fwRevision 17 16, major := revisionField fwRevision 19 18 }
        chaabi :=
          { minor := revisionField fwRevision 21 20, major := revisionField fwRevision 23 22 }
        mia := { minor := revisionField fwRevision 25 24, major := revisionField fwRevision 27 26 } })

/-- The values of the leading tokens that parse. -/
def parsedTokens : List (List Byte) → List Word
  | [] => []
  | p :: rest =>
      match sscanfHex p with
      | .matched value => value :: parsedTokens rest
      | .mismatch => []
      | .endOfInput => []

/-- The first token that does not parse is one of the first `limit` and blank. -/
def StopsAtBlank (texts : List (List Byte)) (limit : Nat) : Prop :=
  (parsedTokens texts).length < limit ∧
    ∃ text, texts[(parsedTokens texts).length]? = some text ∧ sscanfHex text = .endOfInput

/-- A parsed token is the value that `sscanf` matched. -/
theorem parsedTokens_getElem? {texts : List (List Byte)} {index : Nat} {value : Word}
    (parsed : (parsedTokens texts)[index]? = some value) :
    ∃ text, texts[index]? = some text ∧ sscanfHex text = .matched value := by
  induction texts generalizing index with
  | nil => simp [parsedTokens] at parsed
  | cons p rest ih =>
      cases scanned : sscanfHex p with
      | mismatch => simp [parsedTokens, scanned] at parsed
      | endOfInput => simp [parsedTokens, scanned] at parsed
      | matched first =>
          cases index with
          | zero => exact ⟨p, rfl, by simpa [parsedTokens, scanned] using parsed⟩
          | succ index => exact ih (by simpa [parsedTokens, scanned] using parsed)

/-- All of the first `count` tokens parse exactly when that many are recorded. -/
theorem le_length_parsedTokens_iff {texts : List (List Byte)} {count : Nat} :
    count ≤ (parsedTokens texts).length ↔
      ∀ index < count, ∃ text value, texts[index]? = some text ∧
        sscanfHex text = .matched value := by
  constructor
  · intro enough index bound
    obtain ⟨text, present, scanned⟩ := parsedTokens_getElem?
      (List.getElem?_eq_getElem (Nat.lt_of_lt_of_le bound enough))
    exact ⟨text, _, present, scanned⟩
  · intro all
    induction texts generalizing count with
    | nil =>
        cases count with
        | zero => exact Nat.zero_le _
        | succ count =>
            obtain ⟨text, value, present, _⟩ := all 0 (Nat.succ_pos count)
            simp at present
    | cons p rest ih =>
        cases count with
        | zero => exact Nat.zero_le _
        | succ count =>
            obtain ⟨text, value, present, scanned⟩ := all 0 (Nat.succ_pos count)
            obtain rfl : p = text := by simpa using present
            have tail : count ≤ (parsedTokens rest).length := ih fun index bound => by
              simpa using all (index + 1) (by omega)
            simpa [parsedTokens, scanned] using tail

/-- The code of the token loop: only a blank token makes it fail. -/
theorem readTokens_code (texts : List (List Byte)) {i : Nat} (fwRevision : FwRevision) :
    (readTokens texts i fwRevision).1 ≠ 0 ↔ StopsAtBlank texts (32 - i) := by
  induction texts generalizing i fwRevision with
  | nil => simp [readTokens, StopsAtBlank]
  | cons p rest ih =>
      by_cases room : i < 32
      · cases scanned : sscanfHex p with
        | matched value =>
            have tail := ih (i := i + 1) (fwRevision.setIfInBounds i value)
            simp only [readTokens, room, if_true, scanned, tail, StopsAtBlank, parsedTokens,
              List.length_cons, List.getElem?_cons_succ]
            rw [show (parsedTokens rest).length + 1 < 32 - i ↔
              (parsedTokens rest).length < 32 - (i + 1) by omega]
        | mismatch => simp [readTokens, room, scanned, StopsAtBlank, parsedTokens]
        | endOfInput =>
            have positive : 0 < 32 - i := by omega
            simp [readTokens, room, scanned, StopsAtBlank, parsedTokens, positive]
      · have full : 32 - i = 0 := by omega
        simp [readTokens, room, StopsAtBlank, full]

/-- The array after the token loop: parsed values, and the old ones behind them. -/
theorem readTokens_get (texts : List (List Byte)) {i : Nat} (fwRevision : FwRevision)
    (j : Fin 32) :
    (readTokens texts i fwRevision).2[j] =
      if i ≤ j then (parsedTokens texts)[j - i]?.getD fwRevision[j] else fwRevision[j] := by
  induction texts generalizing i fwRevision with
  | nil => simp [readTokens, parsedTokens]
  | cons p rest ih =>
      by_cases room : i < 32
      · cases scanned : sscanfHex p with
        | matched value =>
            have tail := ih (i := i + 1) (fwRevision.setIfInBounds i value)
            simp only [readTokens, room, if_true, scanned, tail, parsedTokens, Fin.getElem_fin]
            rcases Nat.lt_trichotomy i j with below | same | above
            · have next : j.val - i = (j.val - (i + 1)) + 1 := by omega
              rw [if_pos (by omega), if_pos (by omega), next, List.getElem?_cons_succ,
                Vector.getElem_setIfInBounds_ne _ (by omega)]
            · subst same
              rw [if_neg (by omega)]
              simp
            · rw [if_neg (by omega), if_neg (by omega),
                Vector.getElem_setIfInBounds_ne _ (by omega)]
        | mismatch => simp [readTokens, room, scanned, parsedTokens]
        | endOfInput => simp [readTokens, room, scanned, parsedTokens]
      · have late : ¬ i ≤ j.val := by omega
        simp [readTokens, room, late]

end T00F.Recovery
