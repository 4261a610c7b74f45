import T00F.Systems.Word

/-!
# Mapped memory

`size` bytes behind one pointer, with the loads, stores and block copies that C
code performs on them. Every operation has one lemma saying what `load8` reads
afterwards; two mappings that load the same bytes are equal (`ext_load8`).
-/

namespace Systems

/-- `size` bytes of memory behind one pointer. -/
@[ext]
structure Mapping (size : Nat) where
  bytes : Vector Byte size
deriving DecidableEq

namespace Mapping

variable {size : Nat}

/-- The mapping whose byte at each offset is given by `value`. -/
def ofFn (value : Nat → Byte) : Mapping size := ⟨Vector.ofFn fun index => value index⟩

/-- The byte at `offset`; callers stay inside the mapping. -/
def load8 (mapping : Mapping size) (offset : Nat) : Byte := mapping.bytes[offset]?.getD 0#8

/-- Store one byte. -/
def store8 (mapping : Mapping size) (offset : Nat) (value : Byte) : Mapping size :=
  ⟨mapping.bytes.setIfInBounds offset value⟩

/-- The little-endian word at `offset`. -/
def load32 (mapping : Mapping size) (offset : Nat) : Word :=
  .ofBytes (mapping.load8 offset) (mapping.load8 (offset + 1)) (mapping.load8 (offset + 2))
    (mapping.load8 (offset + 3))

/-- Store one little-endian word. -/
def store32 (mapping : Mapping size) (offset : Nat) (value : Word) : Mapping size :=
  (((mapping.store8 offset (value.byte 0)).store8 (offset + 1) (value.byte 1)).store8
    (offset + 2) (value.byte 2)).store8 (offset + 3) (value.byte 3)

/-- Copy `source` to `offset`. -/
def memcpy (mapping : Mapping size) (offset : Nat) (source : List Byte) : Mapping size :=
  ofFn fun index =>
    if offset ≤ index ∧ index < offset + source.length then source.getD (index - offset) 0#8
    else mapping.load8 index

/-- The `count` bytes from `offset` on. -/
def slice (mapping : Mapping size) (offset count : Nat) : List Byte :=
  (List.range count).map fun index => mapping.load8 (offset + index)

@[simp] theorem load8_ofFn (value : Nat → Byte) {offset : Nat} (inside : offset < size) :
    (ofFn value : Mapping size).load8 offset = value offset := by
  simp [ofFn, load8, inside]

/-- Mappings are equal exactly when they load the same bytes. -/
theorem ext_load8 {left right : Mapping size}
    (same : ∀ offset < size, left.load8 offset = right.load8 offset) : left = right := by
  apply Mapping.ext
  apply Vector.ext
  intro index inside
  simpa [load8, inside] using same index inside

/-- A stored byte is loaded back. -/
@[simp] theorem load8_store8_self (mapping : Mapping size) {offset : Nat} (value : Byte)
    (inside : offset < size) : (mapping.store8 offset value).load8 offset = value := by
  simp [store8, load8, inside]

/-- A store leaves the other bytes. -/
@[simp] theorem load8_store8_ne (mapping : Mapping size) {offset other : Nat} (value : Byte)
    (apart : offset ≠ other) : (mapping.store8 offset value).load8 other = mapping.load8 other := by
  simp [store8, load8, apart]

/-- A word store changes its own four bytes only. -/
theorem load8_store32_ne (mapping : Mapping size) {offset other : Nat} (value : Word)
    (apart : other < offset ∨ offset + 4 ≤ other) :
    (mapping.store32 offset value).load8 other = mapping.load8 other := by
  unfold store32
  rw [load8_store8_ne, load8_store8_ne, load8_store8_ne, load8_store8_ne] <;> omega

/-- The bytes of a stored word. -/
theorem load8_store32 (mapping : Mapping size) {offset : Nat} (value : Word)
    (inside : offset + 4 ≤ size) {index : Nat} (bound : index < 4) :
    (mapping.store32 offset value).load8 (offset + index) = value.byte index := by
  unfold store32
  match index, bound with
  | 0, _ =>
      rw [load8_store8_ne, load8_store8_ne, load8_store8_ne, Nat.add_zero, load8_store8_self] <;>
        omega
  | 1, _ => rw [load8_store8_ne, load8_store8_ne, load8_store8_self] <;> omega
  | 2, _ => rw [load8_store8_ne, load8_store8_self] <;> omega
  | 3, _ =>
      rw [load8_store8_self]
      omega

/-- A stored word reads back. -/
@[simp] theorem load32_store32_self (mapping : Mapping size) {offset : Nat} (value : Word)
    (inside : offset + 4 ≤ size) : (mapping.store32 offset value).load32 offset = value := by
  have bytes : ∀ index < 4, (mapping.store32 offset value).load8 (offset + index) =
      value.byte index := fun _ bound => mapping.load8_store32 value inside bound
  have first : (mapping.store32 offset value).load8 offset = value.byte 0 := bytes 0 (by omega)
  rw [load32, first, bytes 1 (by omega), bytes 2 (by omega), bytes 3 (by omega),
    Word.ofBytes_byte]

/-- A second store to the same place replaces the first. -/
theorem store32_store32_self (mapping : Mapping size) {offset : Nat} (first second : Word)
    (inside : offset + 4 ≤ size) :
    (mapping.store32 offset first).store32 offset second = mapping.store32 offset second := by
  apply ext_load8
  intro other _
  by_cases apart : other < offset ∨ offset + 4 ≤ other
  · rw [load8_store32_ne _ _ apart, load8_store32_ne _ _ apart, load8_store32_ne _ _ apart]
  · obtain ⟨index, rfl⟩ : ∃ index, other = offset + index := ⟨other - offset, by omega⟩
    rw [load8_store32 _ _ inside (by omega), load8_store32 _ _ inside (by omega)]

/-- A word only depends on its four bytes. -/
theorem load32_congr {left right : Mapping size} {offset : Nat}
    (same : ∀ index, offset ≤ index → index < offset + 4 → left.load8 index = right.load8 index) :
    left.load32 offset = right.load32 offset := by
  unfold load32
  rw [same offset, same (offset + 1), same (offset + 2), same (offset + 3)] <;> omega

/-- A mapping that already holds a word is not changed by storing it. -/
theorem store32_load32 (mapping : Mapping size) {offset : Nat} {value : Word}
    (held : mapping.load32 offset = value) :
    mapping.store32 offset value = mapping := by
  have bytes : ∀ index < 4, mapping.load8 (offset + index) = value.byte index := by
    intro index bound
    rw [← held, load32]
    match index, bound with
    | 0, _ => simp
    | 1, _ => simp
    | 2, _ => simp
    | 3, _ => simp
  have keep : ∀ index < 4, mapping.store8 (offset + index) (value.byte index) = mapping := by
    intro index bound
    apply ext_load8
    intro other _
    by_cases same : offset + index = other
    · subst same
      rw [load8_store8_self _ _ (by omega), bytes index bound]
    · rw [load8_store8_ne _ _ same]
  rw [store32, ← Nat.add_zero offset, keep 0 (by omega), Nat.add_zero, keep 1 (by omega),
    keep 2 (by omega), keep 3 (by omega)]

/-- A block copy writes the copied range and nothing else. -/
theorem load8_memcpy (mapping : Mapping size) (offset : Nat) (source : List Byte) {index : Nat}
    (inside : index < size) :
    (mapping.memcpy offset source).load8 index =
      if offset ≤ index ∧ index < offset + source.length then source.getD (index - offset) 0#8
      else mapping.load8 index := by
  rw [memcpy, load8_ofFn _ inside]

@[simp] theorem length_slice (mapping : Mapping size) (offset count : Nat) :
    (mapping.slice offset count).length = count := by
  simp [slice]

/-- The bytes of a slice are those of the mapping from its offset on. -/
theorem getD_slice (mapping : Mapping size) (offset : Nat) {count index : Nat}
    (inside : index < count) :
    (mapping.slice offset count).getD index 0#8 = mapping.load8 (offset + index) := by
  simp [slice, inside]

end Mapping

end Systems
