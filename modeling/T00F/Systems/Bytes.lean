import T00F.Systems.Word

/-!
# Byte sequences

Files and C structures as byte lists: array fields of fixed size, words in
little-endian order, and slices. `wordOf_toBytes` and `toBytes_wordOf` are the
round trip between a word and its place in a file; `slice_append` joins adjacent
slices.
-/

namespace Systems

/-- The value of an array field of `size` bytes. -/
abbrev Bytes (size : Nat) := { bytes : List Byte // bytes.length = size }

/-- The `size` bytes of a sequence from `offset` on. -/
def slice (data : List Byte) (offset size : Nat) : List Byte := (data.drop offset).take size

/-- A slice inside the data has the length it was asked for. -/
@[simp] theorem length_slice {data : List Byte} {offset size : Nat}
    (inside : offset + size ≤ data.length) : (slice data offset size).length = size := by
  rw [slice, List.length_take, List.length_drop]
  omega

/-- The bytes of a slice are those of the data from its offset on. -/
theorem getD_slice (data : List Byte) (offset : Nat) {size index : Nat} (inside : index < size) :
    (slice data offset size).getD index 0#8 = data.getD (offset + index) 0#8 := by
  rw [List.getD_eq_getElem?_getD, List.getD_eq_getElem?_getD, slice,
    List.getElem?_take_of_lt inside, List.getElem?_drop]

/-- A byte that was set is read back. -/
theorem getD_set_self {data : List Byte} {offset : Nat} (inside : offset < data.length)
    (byte : Byte) : (data.set offset byte).getD offset 0#8 = byte := by
  rw [List.getD_eq_getElem?_getD, List.getElem?_set_self inside, Option.getD_some]

/-- Setting a byte leaves the others. -/
theorem getD_set_ne (data : List Byte) {offset index : Nat} (other : index ≠ offset)
    (byte : Byte) : (data.set offset byte).getD index 0#8 = data.getD index 0#8 := by
  rw [List.getD_eq_getElem?_getD, List.getElem?_set_ne (Ne.symm other),
    ← List.getD_eq_getElem?_getD]

/-- Two adjacent slices are one slice. -/
theorem slice_append (data : List Byte) {offset size next more : Nat}
    (adjacent : offset + size = next) :
    slice data offset size ++ slice data next more = slice data offset (size + more) := by
  rw [slice, slice, slice, List.take_add, List.drop_drop, adjacent]

/-- A slice that starts behind the first part of a sequence. -/
theorem slice_of_append (front rest : List Byte) {offset : Nat} (behind : front.length = offset)
    (size : Nat) : slice (front ++ rest) offset size = rest.take size := by
  rw [slice, ← behind, List.drop_left]

/-- The end of a sequence consists of NUL bytes if each byte there is one. -/
theorem drop_eq_zeros_iff {data : List Byte} {front : Nat} :
    data.drop front = .replicate (data.length - front) 0#8 ↔
      ∀ offset, front ≤ offset → offset < data.length → data.getD offset 0#8 = 0#8 := by
  constructor
  · intro zeros offset behind inside
    have place : front + (offset - front) = offset := by omega
    rw [List.getD_eq_getElem?_getD, ← place, ← List.getElem?_drop, zeros,
      List.getElem?_replicate_of_lt (by omega)]
    rfl
  · intro zeros
    rw [List.eq_replicate_iff]
    refine ⟨List.length_drop, fun byte member => ?_⟩
    obtain ⟨index, bound, rfl⟩ := List.getElem_of_mem member
    rw [List.length_drop] at bound
    rw [List.getElem_drop, ← List.getD_eq_getElem _ 0#8]
    exact zeros _ (by omega) (by omega)

/-- An array field read from a sequence. -/
def Bytes.ofSlice (data : List Byte) (offset size : Nat)
    (inside : offset + size ≤ data.length) : Bytes size :=
  ⟨slice data offset size, length_slice inside⟩

/-- The word at `offset`, without a check. -/
def wordOf (data : List Byte) (offset : Nat) : Word :=
  .ofBytes (data.getD offset 0#8) (data.getD (offset + 1) 0#8) (data.getD (offset + 2) 0#8)
    (data.getD (offset + 3) 0#8)

/-- The four bytes of a word in memory order. -/
def Word.toBytes (word : Word) : List Byte := [word.byte 0, word.byte 1, word.byte 2, word.byte 3]

@[simp] theorem Word.length_toBytes (word : Word) : word.toBytes.length = 4 := rfl

/-- A word reads back from where it was written. -/
theorem wordOf_toBytes (front rest : List Byte) (word : Word) {offset : Nat}
    (behind : front.length = offset) : wordOf (front ++ word.toBytes ++ rest) offset = word := by
  subst behind
  simp [wordOf, Word.toBytes]

/-- A word in the first part of a sequence reads the same from that part. -/
theorem wordOf_of_front {front data : List Byte} (start : front <+: data) {offset : Nat}
    (inside : offset + 4 ≤ front.length) : wordOf front offset = wordOf data offset := by
  obtain ⟨rest, rfl⟩ := start
  rw [wordOf, wordOf, List.getD_append _ _ _ _ (by omega), List.getD_append _ _ _ _ (by omega),
    List.getD_append _ _ _ _ (by omega), List.getD_append _ _ _ _ (by omega)]

/-- Four bytes of a sequence are those of the word that is read there. -/
theorem toBytes_wordOf {data : List Byte} {offset : Nat} (inside : offset + 4 ≤ data.length) :
    (wordOf data offset).toBytes = slice data offset 4 := by
  have present : ∀ place, place < data.length → data.getD place 0#8 :: data.drop (place + 1) =
      data.drop place := by
    intro place bound
    rw [List.getD_eq_getElem data _ bound, List.getElem_cons_drop]
  rw [slice, ← present offset (by omega), ← present (offset + 1) (by omega),
    ← present (offset + 2) (by omega), ← present (offset + 3) (by omega)]
  simp [wordOf, Word.toBytes]

/-- A sequence that starts with an array field determines the field and the rest. -/
theorem Bytes.append_inj {size : Nat} {field field' : Bytes size} {rest rest' : List Byte}
    (same : field.1 ++ rest = field'.1 ++ rest') : field = field' ∧ rest = rest' := by
  obtain ⟨first, second⟩ := List.append_inj same (field.2.trans field'.2.symm)
  exact ⟨Subtype.ext first, second⟩

/-- A sequence that starts with a word determines the word and the rest. -/
theorem Word.append_inj {word word' : Word} {rest rest' : List Byte}
    (same : word.toBytes ++ rest = word'.toBytes ++ rest') : word = word' ∧ rest = rest' := by
  obtain ⟨first, second⟩ := List.append_inj same rfl
  have read := wordOf_toBytes [] [] word List.length_nil
  rw [first] at read
  exact ⟨read.symm.trans (wordOf_toBytes [] [] word' List.length_nil), second⟩

end Systems
