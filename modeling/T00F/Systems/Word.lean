import Mathlib

/-!
# Bytes and little-endian words

Bytes, 16-bit and 32-bit words as bit vectors, with the little-endian layout
that every format of the device uses. `Word.ofBytes_byte` and
`Word.byte_ofBytes_zero` to `Word.byte_ofBytes_three` say that a word and its
four bytes carry the same information.
-/

namespace Systems

/-- A byte of memory or of a file. -/
abbrev Byte := BitVec 8

/-- A `uint16_t`. -/
abbrev HalfWord := BitVec 16

/-- A `uint32_t`. -/
abbrev Word := BitVec 32

namespace HalfWord

/-- The half word whose bytes are `b0`, `b1` in memory order. -/
def ofBytes (b0 b1 : Byte) : HalfWord := b1 ++ b0

end HalfWord

namespace Word

/-- The word whose bytes are `b0` to `b3` in memory order. -/
def ofBytes (b0 b1 b2 b3 : Byte) : Word := b3 ++ b2 ++ b1 ++ b0

/-- Byte `index` of a word, counted from the least significant one. -/
def byte (word : Word) (index : Nat) : Byte := word.extractLsb' (8 * index) 8

variable (b0 b1 b2 b3 : Byte)

@[simp] theorem byte_ofBytes_zero : (ofBytes b0 b1 b2 b3).byte 0 = b0 := by
  ext index bound
  simp only [byte, ofBytes, BitVec.getElem_extractLsb']
  grind

@[simp] theorem byte_ofBytes_one : (ofBytes b0 b1 b2 b3).byte 1 = b1 := by
  ext index bound
  simp only [byte, ofBytes, BitVec.getElem_extractLsb']
  grind

@[simp] theorem byte_ofBytes_two : (ofBytes b0 b1 b2 b3).byte 2 = b2 := by
  ext index bound
  simp only [byte, ofBytes, BitVec.getElem_extractLsb']
  grind

@[simp] theorem byte_ofBytes_three : (ofBytes b0 b1 b2 b3).byte 3 = b3 := by
  ext index bound
  simp only [byte, ofBytes, BitVec.getElem_extractLsb']
  grind

/-- A word is determined by its four bytes. -/
@[simp] theorem ofBytes_byte (word : Word) :
    ofBytes (word.byte 0) (word.byte 1) (word.byte 2) (word.byte 3) = word := by
  ext index bound
  simp only [byte, ofBytes]
  grind

/-- Exclusive or acts on each byte of a word separately. -/
theorem byte_xor (left right : Word) (index : Nat) :
    (left ^^^ right).byte index = left.byte index ^^^ right.byte index := by
  ext bit bound
  simp [byte]

end Word

end Systems
