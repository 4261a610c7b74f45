import T00F.Systems.Word

/-!
# C text

The string functions of the C library that the device code uses to read kernel
nodes: NUL-terminated strings, `strtok_r` over a set of separators, `strtol` in
base 10 and `sscanf` with `%x`. Strings are byte lists in the "C" locale.
-/

namespace Systems

/-- The byte of an ASCII character. -/
def ascii (char : Char) : Byte := BitVec.ofNat 8 char.toNat

/-- `isspace`: blank, and tab to carriage return. -/
def isSpace (byte : Byte) : Bool := byte == 0x20#8 || (0x09#8 ≤ byte && byte ≤ 0x0d#8)

/-- The string that a byte buffer holds: everything before the first NUL. -/
def cString (buffer : List Byte) : List Byte := buffer.takeWhile (· != 0#8)

/-- The tokens that successive `strtok_r` calls return: the non-empty runs
between separators. -/
def tokens (separator : Byte → Bool) (text : List Byte) : List (List Byte) :=
  (text.splitOnP separator).filter fun token => !token.isEmpty

/-- The value of a decimal digit. -/
def decimalDigit (byte : Byte) : Option Nat :=
  if ascii '0' ≤ byte ∧ byte ≤ ascii '9' then some (byte.toNat - (ascii '0').toNat) else none

/-- The value of a hexadecimal digit. -/
def hexDigit (byte : Byte) : Option Nat :=
  if ascii 'a' ≤ byte ∧ byte ≤ ascii 'f' then some (byte.toNat - (ascii 'a').toNat + 10)
  else if ascii 'A' ≤ byte ∧ byte ≤ ascii 'F' then some (byte.toNat - (ascii 'A').toNat + 10)
  else decimalDigit byte

/-- The longest run of digits at the start of a text: its value, how many digits
it has, and what follows it. -/
def digits (digit : Byte → Option Nat) (base : Nat) : Nat → List Byte → Nat × Nat × List Byte
  | value, [] => (value, 0, [])
  | value, byte :: rest =>
      match digit byte with
      | none => (value, 0, byte :: rest)
      | some next =>
          let (total, count, after) := digits digit base (value * base + next) rest
          (total, count + 1, after)

/-- Split off an optional sign. -/
def sign (text : List Byte) : Bool × List Byte :=
  match text with
  | byte :: rest =>
      if byte = ascii '-' then (true, rest)
      else if byte = ascii '+' then (false, rest)
      else (false, text)
  | [] => (false, [])

/-- `strtol` in base 10 for a `long` of 32 bits: the value, clamped to the range
of the type, and the text from `end_ptr` on. Without digits the value is 0 and
`end_ptr` is the start of the text. -/
def strtol (text : List Byte) : Int × List Byte :=
  let (negative, body) := sign (text.dropWhile isSpace)
  let (magnitude, count, after) := digits decimalDigit 10 0 body
  if count = 0 then (0, text)
  else if negative then (max (-(magnitude : Int)) (-2 ^ 31), after)
  else (min (magnitude : Int) (2 ^ 31 - 1), after)

/-- What `sscanf` with a single conversion returns: the converted value, 0 when
the text does not match, or `EOF` when the text ends before any conversion. -/
inductive Scan (α : Type) where
  | matched (value : α)
  | mismatch
  | endOfInput
deriving DecidableEq, Repr

/-- Skip the `0x` of a hexadecimal number. -/
def skipHexPrefix (text : List Byte) : List Byte :=
  match text with
  | zero :: mark :: digit :: rest =>
      if zero = ascii '0' ∧ (mark = ascii 'x' ∨ mark = ascii 'X') ∧ (hexDigit digit).isSome then
        digit :: rest
      else text
  | _ => text

/-- `sscanf` with `%x` into an `unsigned int`. The number is read like
`strtoumax` does, so a magnitude of 64 bits or more saturates, and then stored in
32 bits. -/
def sscanfHex (text : List Byte) : Scan Word :=
  match text.dropWhile isSpace with
  | [] => .endOfInput
  | first :: rest =>
      let (negative, body) := sign (first :: rest)
      let (magnitude, count, _) := digits hexDigit 16 0 (skipHexPrefix body)
      if count = 0 then .mismatch
      else if 2 ^ 64 ≤ magnitude then .matched (BitVec.ofNat 32 (2 ^ 64 - 1))
      else if negative then .matched (-BitVec.ofNat 32 magnitude)
      else .matched (BitVec.ofNat 32 magnitude)


end Systems
