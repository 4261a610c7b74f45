import T00F.Systems.Bytes

/-!
# Standard I/O streams

`fread` on a stream, which is the list of bytes behind its position, and `fwrite` and
`fflush` on an `OutputStream`, whose bytes wait in a buffer before they reach the file. A
call transfers what it is asked for or, if it fails, at most the number of bytes that its
limit gives. `OutputStream.contents_fwrite` is the rule for a call that takes everything,
`Remains.fwrite` the one for any call.
-/

namespace Systems

/-- What a call transfers of the bytes it is asked for: everything, or what its
limit allows. -/
def transfer (limit : Option Nat) (bytes : List Byte) : List Byte :=
  match limit with
  | none => bytes
  | some limit => bytes.take limit

@[simp] theorem transfer_none (bytes : List Byte) : transfer none bytes = bytes := rfl

/-- A transfer moves at most what it was given. -/
theorem length_transfer_le (limit : Option Nat) (bytes : List Byte) :
    (transfer limit bytes).length ≤ bytes.length := by
  cases limit with
  | none => exact Nat.le_refl _
  | some limit => exact List.length_take_le' _ _

/-- A call that transfers as many bytes as it is asked for transfers all of them. -/
theorem length_of_length_transfer {limit : Option Nat} {bytes : List Byte}
    (complete : bytes.length ≤ (transfer limit bytes).length) : transfer limit bytes = bytes := by
  cases limit with
  | none => rfl
  | some limit =>
      rw [transfer, List.length_take] at complete
      exact List.take_of_length_le (by omega)

/-- A call falls short of its bytes exactly if its limit does. -/
theorem length_transfer_lt_iff {limit : Option Nat} {bytes : List Byte} {size : Nat}
    (length : bytes.length = size) :
    (transfer limit bytes).length < size ↔ ∃ few < size, limit = some few := by
  subst length
  cases limit with
  | none => simp
  | some few => simp [transfer]

/-- A call whose limit does not fall short transfers everything. -/
theorem transfer_whole {limit : Option Nat} {bytes : List Byte} {size : Nat}
    (length : bytes.length = size) (whole : ∀ few < size, limit ≠ some few) :
    transfer limit bytes = bytes := by
  apply length_of_length_transfer
  refine Nat.le_of_not_lt fun short => ?_
  obtain ⟨few, less, failed⟩ := (length_transfer_lt_iff length).mp (length ▸ short)
  exact whole few less failed

/-- The bytes that `fread` of `count` bytes returns. -/
def fread (limit : Option Nat) (count : Nat) (stream : List Byte) : List Byte :=
  transfer limit (stream.take count)

@[simp] theorem fread_none (count : Nat) (stream : List Byte) :
    fread none count stream = stream.take count := rfl

/-- `fread` returns at most what the stream holds. -/
theorem length_fread_le (limit : Option Nat) (count : Nat) (stream : List Byte) :
    (fread limit count stream).length ≤ stream.length :=
  Nat.le_trans (length_transfer_le _ _) (List.length_take_le' _ _)

/-- What is read is the start of the stream. -/
theorem fread_append_drop (limit : Option Nat) (count : Nat) (stream : List Byte) :
    fread limit count stream ++ stream.drop (fread limit count stream).length = stream := by
  rw [← List.prefix_iff_eq_append]
  cases limit with
  | none => exact List.take_prefix _ _
  | some limit => exact (List.take_prefix _ _).trans (List.take_prefix _ _)

/-! ## Output streams -/

/-- A stream that is written: what has reached its file, and what waits in its buffer. -/
structure OutputStream where
  file : List Byte
  buffer : List Byte
deriving DecidableEq, Repr

/-- A stream that nothing was written to. -/
def OutputStream.empty : OutputStream := ⟨[], []⟩

/-- What the stream has taken and not lost. -/
def OutputStream.contents (output : OutputStream) : List Byte := output.file ++ output.buffer

@[simp] theorem OutputStream.contents_empty : OutputStream.empty.contents = [] := rfl

/-- The outcome of a call of `fwrite`: how much it takes, how many of the bytes that wait
it moves to the file, and whether it drops the others if it falls short. -/
structure WriteResult where
  limit : Option Nat
  drained : Nat
  drops : Bool
deriving DecidableEq, Repr

/-- The call takes everything and leaves it in the buffer. -/
def WriteResult.whole : WriteResult := ⟨none, 0, false⟩

/-- `fwrite`: the bytes go to the buffer, and from there to the file when the library
chooses. -/
def OutputStream.fwrite (output : OutputStream) (result : WriteResult) (bytes : List Byte) :
    OutputStream :=
  let taken := transfer result.limit bytes
  let waiting := output.buffer ++ taken
  { file := output.file ++ waiting.take result.drained
    buffer := if taken.length < bytes.length ∧ result.drops = true then []
      else waiting.drop result.drained }

/-- `fflush`: what its limit allows of the waiting bytes reaches the file. -/
def OutputStream.flush (output : OutputStream) (limit : Option Nat) : List Byte :=
  output.file ++ transfer limit output.buffer

@[simp] theorem OutputStream.flush_none (output : OutputStream) :
    output.flush none = output.contents := rfl

/-- How many of the waiting bytes a flush leaves out. -/
def unflushed (limit : Option Nat) (waiting : Nat) : Nat :=
  match limit with
  | none => 0
  | some few => waiting - few

/-- A flush leaves out the last bytes. -/
theorem OutputStream.flush_eq (output : OutputStream) (limit : Option Nat) :
    output.flush limit = output.contents.take
      (output.contents.length - unflushed limit output.buffer.length) := by
  cases limit with
  | none => rw [flush_none, unflushed, Nat.sub_zero, List.take_length]
  | some few =>
      rw [flush, contents, transfer, unflushed, List.length_append]
      have kept : output.file.length + output.buffer.length - (output.buffer.length - few) =
          output.file.length + min few output.buffer.length := by omega
      rw [kept, List.take_length_add_append, List.take_eq_take_min]

/-- A call that takes everything loses nothing. -/
theorem OutputStream.contents_fwrite {result : WriteResult} {bytes : List Byte}
    (whole : transfer result.limit bytes = bytes) (output : OutputStream) :
    (output.fwrite result bytes).contents = output.contents ++ bytes := by
  have kept : ¬ (bytes.length < bytes.length ∧ result.drops = true) :=
    fun short => Nat.lt_irrefl _ short.1
  rw [fwrite, whole, contents, contents, if_neg kept, List.append_assoc, List.take_append_drop,
    List.append_assoc]

/-- The call takes everything or drops nothing. -/
def WriteResult.Keeps (result : WriteResult) : Prop := result.limit = none ∨ result.drops = false

/-- Such a call keeps what it takes. -/
theorem OutputStream.contents_fwrite_keeps {result : WriteResult} (keeps : result.Keeps)
    (output : OutputStream) (bytes : List Byte) :
    (output.fwrite result bytes).contents = output.contents ++ transfer result.limit bytes := by
  rcases keeps with whole | kept
  · rw [whole, transfer_none]
    exact contents_fwrite (by rw [whole, transfer_none]) output
  · rw [fwrite, contents, contents, kept, if_neg (fun short => Bool.false_ne_true short.2),
      List.append_assoc, List.take_append_drop, List.append_assoc]

/-- Whatever a call drops are the last bytes. -/
theorem OutputStream.contents_fwrite_prefix (output : OutputStream) (result : WriteResult)
    (bytes : List Byte) : (output.fwrite result bytes).contents <+:
      output.contents ++ transfer result.limit bytes := by
  rw [fwrite, contents, contents]
  split
  · rw [List.append_nil, List.append_assoc, List.prefix_append_right_inj]
    exact List.take_prefix _ _
  · rw [List.append_assoc, List.take_append_drop, List.append_assoc]

/-- How many bytes wait after a call that takes `count` bytes. -/
def WriteResult.waits (result : WriteResult) (waiting count : Nat) : Nat :=
  waiting + count - result.drained

/-- How full the buffer is after an `fwrite` that took all its bytes. -/
theorem OutputStream.length_buffer_fwrite {result : WriteResult} {bytes : List Byte}
    (whole : transfer result.limit bytes = bytes) (output : OutputStream) :
    (output.fwrite result bytes).buffer.length =
      result.waits output.buffer.length bytes.length := by
  have kept : ¬ (bytes.length < bytes.length ∧ result.drops = true) :=
    fun short => Nat.lt_irrefl _ short.1
  rw [fwrite, whole, if_neg kept, List.length_drop, List.length_append, WriteResult.waits]

/-! ## Streams that lose bytes -/

/-- The bytes are left of `total` bytes that began with `head`: so much of the head is
still there as was not lost. -/
structure Remains (head : List Byte) (total : Nat) (bytes : List Byte) : Prop where
  bound : bytes.length ≤ total
  start : head.take (head.length - (total - bytes.length)) <+: bytes

/-- A file that holds exactly the head has nothing left to be checked. -/
theorem Remains.self (head : List Byte) : Remains head head.length head where
  bound := Nat.le_refl _
  start := List.take_prefix _ _

section Remains

variable {head : List Byte} {total : Nat} {bytes : List Byte}

/-- Bytes behind the head do not touch what remains of it. -/
theorem Remains.append (remains : Remains head total bytes) (more : List Byte) :
    Remains head (total + more.length) (bytes ++ more) where
  bound := by
    rw [List.length_append]
    exact Nat.add_le_add_right remains.bound _
  start := by
    rw [List.length_append, Nat.add_sub_add_right]
    exact remains.start.trans (List.prefix_append _ _)

/-- Whoever loses the last bytes loses so many of the head at most. -/
theorem Remains.of_front (remains : Remains head total bytes) {left : List Byte}
    (cut : left <+: bytes) : Remains head total left where
  bound := Nat.le_trans cut.length_le remains.bound
  start := by
    have shorter := cut.length_le
    have kept := remains.start.length_le
    have bound := remains.bound
    rw [List.length_take] at kept
    have less : head.take (head.length - (total - left.length)) <+:
        head.take (head.length - (total - bytes.length)) :=
      List.take_prefix_take_left (by omega)
    refine List.prefix_of_prefix_length_le (less.trans remains.start) cut ?_
    rw [List.length_take]
    omega

/-- A call adds to the total what it takes. -/
theorem Remains.fwrite {output : OutputStream} (remains : Remains head total output.contents)
    (result : WriteResult) (bytes : List Byte) :
    Remains head (total + (transfer result.limit bytes).length)
      (output.fwrite result bytes).contents :=
  (remains.append _).of_front (output.contents_fwrite_prefix result bytes)

/-- A flush adds nothing. -/
theorem Remains.flush {output : OutputStream} (remains : Remains head total output.contents)
    (limit : Option Nat) : Remains head total (output.flush limit) := by
  rw [output.flush_eq]
  exact remains.of_front (List.take_prefix _ _)

end Remains

end Systems
