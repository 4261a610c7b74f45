import T00F.Systems.Bytes
import T00F.Systems.Xor

/-!
# The Intel boot header

`struct bootheader` of `bootheader.h`, which heads every boot image. A value of
`Bootheader` holds the members, `toBytes` and `ofBytes` are its memory layout:
`toBytes_ofBytes` says that the members cover all of `sizeofBootheader` bytes, and
`cmdline_toBytes`, `bzImageSize_toBytes` and `initrdSize_toBytes` place three
members at the offsets that `unpack.c` computes from macros.
-/

namespace T00F.Mkbootimg

open Systems

/-- `MAGIC_SIZE` -/
def magicSize : Nat := 7

/-- `ID_SIZE` -/
def idSize : Nat := 0x28

/-- `HEADER_SIZE` -/
def headerSize : Nat := magicSize + 0x1 + idSize + 0x4 + 0x4

/-- `HEAD_PADDING` -/
def headPaddingSize : Nat := 0x1c8

/-- `UNKNOWN_SIZE` -/
def unknownSize : Nat := 0x1e0

/-- `CMDLINE_START` -/
def cmdlineStart : Nat := 0x3E0

/-- `CMDLINE_SIZE` -/
def cmdlineSize : Nat := 0x400

/-- `CMDLINE_END` -/
def cmdlineEnd : Nat := headerSize + headPaddingSize + unknownSize + cmdlineSize

/-- `PADDING1_SIZE` -/
def padding1Size : Nat := 0xbf0

/-- `BOOTSTUBSTACK_SIZE` -/
def bootstubStackSize : Nat := 0x2000

/-- `SECTOR_SIZE` -/
def sectorSize : Nat := 0x200

/-- `sizeof(struct bootheader)`, as its sanity check demands. -/
def sizeofBootheader : Nat := headerSize + headPaddingSize + unknownSize + 0x3000

/-- `struct bootheader` -/
structure Bootheader where
  magic : Bytes magicSize
  xor : Byte
  id : Bytes idSize
  sectors : Word
  imageType : Word
  headPadding : Bytes headPaddingSize
  unknown : Bytes unknownSize
  cmdline : Bytes cmdlineSize
  bzImageSize : Word
  initrdSize : Word
  spiUartSuppression : Word
  spiType : Word
  padding1 : Bytes padding1Size
  bootstubStack : Bytes bootstubStackSize
deriving DecidableEq

namespace Bootheader

/-- The members in front of the command line. -/
def front (hdr : Bootheader) : List Byte :=
  hdr.magic ++ [hdr.xor] ++ hdr.id ++ hdr.sectors.toBytes ++ hdr.imageType.toBytes ++
    hdr.headPadding ++ hdr.unknown

/-- The members behind the two sizes. -/
def back (hdr : Bootheader) : List Byte :=
  hdr.spiUartSuppression.toBytes ++ hdr.spiType.toBytes ++ hdr.padding1 ++ hdr.bootstubStack

/-- The memory of the structure: its members in order, without gaps. -/
def toBytes (hdr : Bootheader) : List Byte :=
  hdr.front ++ hdr.cmdline ++ hdr.bzImageSize.toBytes ++ hdr.initrdSize.toBytes ++ hdr.back

/-- The structure whose memory starts with the given bytes. -/
def ofBytes (bytes : List Byte) (room : sizeofBootheader ≤ bytes.length) : Bootheader :=
  have inside : 13280 ≤ bytes.length := room
  { magic := .ofSlice bytes 0 magicSize (by unfold magicSize; omega)
    xor := bytes.getD 7 0#8
    id := .ofSlice bytes 8 idSize (by unfold idSize; omega)
    sectors := wordOf bytes 48
    imageType := wordOf bytes 52
    headPadding := .ofSlice bytes 56 headPaddingSize (by unfold headPaddingSize; omega)
    unknown := .ofSlice bytes 512 unknownSize (by unfold unknownSize; omega)
    cmdline := .ofSlice bytes 992 cmdlineSize (by unfold cmdlineSize; omega)
    bzImageSize := wordOf bytes 2016
    initrdSize := wordOf bytes 2020
    spiUartSuppression := wordOf bytes 2024
    spiType := wordOf bytes 2028
    padding1 := .ofSlice bytes 2032 padding1Size (by unfold padding1Size; omega)
    bootstubStack := .ofSlice bytes 5088 bootstubStackSize (by unfold bootstubStackSize; omega) }

/-- The command line starts at its offset. -/
theorem length_front (hdr : Bootheader) : hdr.front.length = cmdlineStart := by
  simp only [front, List.length_append, hdr.magic.2, hdr.id.2, hdr.headPadding.2, hdr.unknown.2,
    Word.length_toBytes]
  rfl

/-- The fields behind the command line have their size. -/
theorem length_back (hdr : Bootheader) : hdr.back.length = 11256 := by
  simp only [back, List.length_append, hdr.padding1.2, hdr.bootstubStack.2, Word.length_toBytes]
  rfl

@[simp] theorem length_toBytes (hdr : Bootheader) : hdr.toBytes.length = sizeofBootheader := by
  simp only [toBytes, List.length_append, hdr.length_front, hdr.cmdline.2, hdr.length_back,
    Word.length_toBytes]
  rfl

/-- The members cover the memory of the structure. -/
theorem toBytes_ofBytes (bytes : List Byte) (room : sizeofBootheader ≤ bytes.length) :
    (ofBytes bytes room).toBytes = bytes.take sizeofBootheader := by
  have inside : 13280 ≤ bytes.length := room
  have xorByte : [bytes.getD 7 0#8] = slice bytes 7 1 := by
    rw [slice, List.getD_eq_getElem _ _ (by omega : 7 < bytes.length),
      List.drop_eq_getElem_cons (by omega : 7 < bytes.length)]
    rfl
  simp only [toBytes, front, back, ofBytes, Bytes.ofSlice, xorByte]
  rw [toBytes_wordOf (by omega), toBytes_wordOf (by omega), toBytes_wordOf (by omega),
    toBytes_wordOf (by omega), toBytes_wordOf (by omega), toBytes_wordOf (by omega)]
  simp only [← List.append_assoc]
  repeat rw [slice_append bytes (by rfl)]
  rfl

/-- The memory of a structure determines its members. -/
theorem toBytes_injective {hdr hdr' : Bootheader} (same : hdr.toBytes = hdr'.toBytes) :
    hdr = hdr' := by
  simp only [toBytes, front, back, List.append_assoc, List.singleton_append] at same
  obtain ⟨magic, same⟩ := Bytes.append_inj same
  obtain ⟨xor, same⟩ := List.cons.inj same
  obtain ⟨id, same⟩ := Bytes.append_inj same
  obtain ⟨sectors, same⟩ := Word.append_inj same
  obtain ⟨imageType, same⟩ := Word.append_inj same
  obtain ⟨headPadding, same⟩ := Bytes.append_inj same
  obtain ⟨unknown, same⟩ := Bytes.append_inj same
  obtain ⟨cmdline, same⟩ := Bytes.append_inj same
  obtain ⟨bzImageSize, same⟩ := Word.append_inj same
  obtain ⟨initrdSize, same⟩ := Word.append_inj same
  obtain ⟨spiUartSuppression, same⟩ := Word.append_inj same
  obtain ⟨spiType, same⟩ := Word.append_inj same
  obtain ⟨padding1, bootstubStack⟩ := Bytes.append_inj same
  cases hdr
  cases hdr'
  congr
  exact Subtype.ext bootstubStack

/-- A sequence that starts with a structure determines it and the rest. -/
theorem append_inj {hdr hdr' : Bootheader} {rest rest' : List Byte}
    (same : hdr.toBytes ++ rest = hdr'.toBytes ++ rest') : hdr = hdr' ∧ rest = rest' := by
  have lengths : hdr.toBytes.length = hdr'.toBytes.length := by
    rw [length_toBytes, length_toBytes]
  obtain ⟨front, back⟩ := List.append_inj same lengths
  exact ⟨toBytes_injective front, back⟩

/-- A structure reads back from the start of a sequence. -/
theorem ofBytes_toBytes (hdr : Bootheader) {bytes rest : List Byte}
    (placed : bytes = hdr.toBytes ++ rest) (room : sizeofBootheader ≤ bytes.length) :
    ofBytes bytes room = hdr := by
  apply toBytes_injective
  rw [toBytes_ofBytes, placed, List.take_left' hdr.length_toBytes]

end Bootheader

/-- `calculate_checksum`: the exclusive or of the first bytes without the checksum
itself, which is taken twice. -/
def calculateChecksum (hdr : Bootheader) : Byte :=
  (hdr.toBytes.take headerSize).foldl (fun sum byte => sum ^^^ byte) hdr.xor

/-! ## The checksum -/

/-- Setting the member `xor` changes one byte. -/
theorem toBytes_setXor (hdr : Bootheader) (sum : Byte) :
    ({ hdr with xor := sum } : Bootheader).toBytes = hdr.toBytes.set magicSize sum := by
  have placed : ∀ value : Byte, ({ hdr with xor := value } : Bootheader).toBytes =
      hdr.magic.1 ++ value :: (hdr.id ++ (hdr.sectors.toBytes ++ (hdr.imageType.toBytes ++
        (hdr.headPadding ++ (hdr.unknown ++ (hdr.cmdline ++ (hdr.bzImageSize.toBytes ++
          (hdr.initrdSize.toBytes ++ hdr.back)))))))) := by
    intro value
    simp only [Bootheader.toBytes, Bootheader.front, Bootheader.back, List.append_assoc,
      List.cons_append, List.nil_append]
  have before : hdr.toBytes = _ := placed hdr.xor
  rw [placed sum, before, List.set_append_right _ _ (Nat.le_of_eq hdr.magic.2), hdr.magic.2,
    Nat.sub_self, List.set_cons_zero]

/-- The checksum byte lies inside the header. -/
theorem magicSize_lt (hdr : Bootheader) : magicSize < hdr.toBytes.length := by
  rw [hdr.length_toBytes]
  decide

/-- The checksum byte stands at its offset. -/
theorem getD_toBytes_xor (hdr : Bootheader) : hdr.toBytes.getD magicSize 0#8 = hdr.xor := by
  have stored : hdr.toBytes = hdr.toBytes.set magicSize hdr.xor := toBytes_setXor hdr hdr.xor
  rw [stored, getD_set_self (magicSize_lt hdr)]

/-- The old checksum counts twice, so that it does not count. -/
theorem calculateChecksum_eq (hdr : Bootheader) : calculateChecksum hdr =
    hdr.xor ^^^ xorRange (fun index => hdr.toBytes.getD index 0#8) headerSize := by
  have length : (hdr.toBytes.take headerSize).length = headerSize := by
    rw [List.length_take, hdr.length_toBytes]
    rfl
  have same : xorRange (fun index => (hdr.toBytes.take headerSize).getD index 0#8) headerSize =
      xorRange (fun index => hdr.toBytes.getD index 0#8) headerSize := by
    apply xorRange_congr
    intro index bound
    rw [List.getD_eq_getElem?_getD, List.getElem?_take_of_lt bound, ← List.getD_eq_getElem?_getD]
  rw [calculateChecksum, foldl_xor, length, same]

/-- With its checksum set, the first bytes of a header fold to zero. -/
theorem xorRange_setChecksum (hdr : Bootheader) :
    xorRange (fun index =>
      ({ hdr with xor := calculateChecksum hdr } : Bootheader).toBytes.getD index 0#8) headerSize =
        0#8 := by
  have agree : ∀ index < headerSize, index ≠ magicSize →
      (hdr.toBytes.set magicSize (calculateChecksum hdr)).getD index 0#8 =
        hdr.toBytes.getD index 0#8 := fun index _ other => getD_set_ne _ other _
  rw [toBytes_setXor, xorRange_change (by decide) agree, getD_set_self (magicSize_lt hdr),
    getD_toBytes_xor, calculateChecksum_eq]
  simp

/-! ## The members that are read back -/

section Reading

variable (hdr : Bootheader) (rest : List Byte)

/-- The head padding stands at its offset. -/
theorem headPadding_toBytes :
    slice (hdr.toBytes ++ rest) headerSize headPaddingSize = hdr.headPadding := by
  have behind : (hdr.magic.1 ++ [hdr.xor] ++ hdr.id ++ hdr.sectors.toBytes ++
      hdr.imageType.toBytes).length = headerSize := by
    simp only [List.length_append, hdr.magic.2, hdr.id.2, Word.length_toBytes]
    rfl
  have placed : hdr.toBytes ++ rest = hdr.magic.1 ++ [hdr.xor] ++ hdr.id ++ hdr.sectors.toBytes ++
      hdr.imageType.toBytes ++ (hdr.headPadding ++ (hdr.unknown ++ (hdr.cmdline ++
        (hdr.bzImageSize.toBytes ++ (hdr.initrdSize.toBytes ++ (hdr.back ++ rest)))))) := by
    simp only [Bootheader.toBytes, Bootheader.front, List.append_assoc]
  rw [placed, slice_of_append _ _ behind, List.take_left' hdr.headPadding.2]

/-- The command line stands at its offset. -/
theorem cmdline_toBytes : slice (hdr.toBytes ++ rest) cmdlineStart cmdlineSize = hdr.cmdline := by
  rw [Bootheader.toBytes, List.append_assoc, List.append_assoc, List.append_assoc,
    List.append_assoc, slice_of_append _ _ hdr.length_front, List.take_left' hdr.cmdline.2]

/-- The kernel size stands at its offset. -/
theorem bzImageSize_toBytes : wordOf (hdr.toBytes ++ rest) cmdlineEnd = hdr.bzImageSize := by
  have behind : (hdr.front ++ hdr.cmdline).length = cmdlineEnd := by
    rw [List.length_append, hdr.length_front, hdr.cmdline.2]
    rfl
  rw [Bootheader.toBytes, List.append_assoc, List.append_assoc]
  exact wordOf_toBytes _ _ _ behind

/-- The ramdisk size stands at its offset. -/
theorem initrdSize_toBytes : wordOf (hdr.toBytes ++ rest) (cmdlineEnd + 4) = hdr.initrdSize := by
  have behind : (hdr.front ++ hdr.cmdline ++ hdr.bzImageSize.toBytes).length = cmdlineEnd + 4 := by
    rw [List.length_append, List.length_append, hdr.length_front, hdr.cmdline.2,
      Word.length_toBytes]
    rfl
  rw [Bootheader.toBytes, List.append_assoc]
  exact wordOf_toBytes _ _ _ behind

end Reading

end T00F.Mkbootimg
