import T00F.Systems.Loop
import T00F.Systems.Stream

/-!
# Copy loops

The two loops that copy a stream through a buffer of any size: `copyAll` until its end,
`copyMissing` for a number of bytes. `contents_copyAll` and `copyMissing_eq` say that they
copy everything when no call fails, `length_copied` when the first one does,
`copyAll_remains` what is left otherwise, and `copyMissing_short` when the second one does
not end.
-/

namespace Systems

/-! ## Copying a stream -/

/-- A read that returns something leaves less of the stream. -/
theorem length_rest_lt {limit : Option Nat} {count : Nat} {stream : List Byte}
    (some : (fread limit count stream).length ≠ 0) :
    (stream.drop (fread limit count stream).length).length < stream.length := by
  have consumed := length_fread_le limit count stream
  rw [List.length_drop]
  omega

section CopyAll

variable (readLimit : Nat → Option Nat) (write : Nat → WriteResult) (bufferSize : Nat)

/-- `while ((size = fread(buf, 1, sizeof buf, from))) fwrite(buf, 1, size, to);`
The outcomes are those of the successive calls, from call `calls` on. -/
def copyAll (calls : Nat) (stream : List Byte) (output : OutputStream) : OutputStream :=
  let buf := fread (readLimit calls) bufferSize stream
  if buf.length = 0 then output
  else copyAll (calls + 1) (stream.drop buf.length) (output.fwrite (write calls) buf)
termination_by stream.length
decreasing_by exact length_rest_lt ‹_›

/-- The bytes that the calls of `fwrite` in the loop take. -/
def copied (calls : Nat) (stream : List Byte) : List Byte :=
  let buf := fread (readLimit calls) bufferSize stream
  if buf.length = 0 then []
  else transfer (write calls).limit buf ++ copied (calls + 1) (stream.drop buf.length)
termination_by stream.length
decreasing_by exact length_rest_lt ‹_›

/-- How many bytes wait after the loop if its calls take everything. -/
def waitsAll (calls : Nat) (stream : List Byte) (waiting : Nat) : Nat :=
  let buf := fread (readLimit calls) bufferSize stream
  if buf.length = 0 then waiting
  else waitsAll (calls + 1) (stream.drop buf.length) ((write calls).waits waiting buf.length)
termination_by stream.length
decreasing_by exact length_rest_lt ‹_›

end CopyAll

section CopyAll

variable {readLimit : Nat → Option Nat} {write : Nat → WriteResult} {bufferSize : Nat}

/-- The calls of the loop lose nothing: no read fails before the end of the stream, and
everything that is read is written. -/
inductive Lossless (readLimit : Nat → Option Nat) (write : Nat → WriteResult)
    (bufferSize : Nat) : Nat → List Byte → Prop where
  | ended (calls : Nat) : Lossless readLimit write bufferSize calls []
  | copied {calls : Nat} {stream : List Byte}
      (read : fread (readLimit calls) bufferSize stream ≠ [])
      (written : transfer (write calls).limit (fread (readLimit calls) bufferSize stream) =
        fread (readLimit calls) bufferSize stream)
      (rest : Lossless readLimit write bufferSize (calls + 1)
        (stream.drop (fread (readLimit calls) bufferSize stream).length)) :
      Lossless readLimit write bufferSize calls stream

/-- If no call fails, nothing is lost. -/
theorem lossless_of_none (reads : ∀ call, readLimit call = none)
    (writes : ∀ call, (write call).limit = none) (room : 0 < bufferSize) (calls : Nat)
    (stream : List Byte) : Lossless readLimit write bufferSize calls stream := by
  induction same : stream.length using Nat.strong_induction_on generalizing calls stream with
  | _ size ih =>
      cases stream with
      | nil => exact .ended calls
      | cons byte rest =>
          have some : 0 < (fread (readLimit calls) bufferSize (byte :: rest)).length := by
            rw [reads, fread_none, List.length_take, List.length_cons]
            omega
          exact .copied (List.ne_nil_of_length_pos some) (by rw [writes, transfer_none])
            (ih _ (same ▸ length_rest_lt (Nat.ne_of_gt some)) (calls + 1) _ rfl)

/-- The loop ends with a call that reads nothing. -/
theorem fread_ended (calls : Nat) : (fread (readLimit calls) bufferSize []).length = 0 :=
  Nat.le_zero.mp (length_fread_le _ _ [])

/-- What loses nothing copies the whole stream. -/
theorem copied_lossless {calls : Nat} {stream : List Byte}
    (lossless : Lossless readLimit write bufferSize calls stream) :
    copied readLimit write bufferSize calls stream = stream := by
  induction lossless with
  | ended calls => rw [copied, if_pos (fread_ended calls)]
  | @copied calls stream read written rest ih =>
      rw [copied, if_neg (mt List.eq_nil_of_length_eq_zero read), ih, written, fread_append_drop]

/-- It appends the stream to its output. -/
theorem contents_copyAll {calls : Nat} {stream : List Byte}
    (lossless : Lossless readLimit write bufferSize calls stream) (output : OutputStream) :
    (copyAll readLimit write bufferSize calls stream output).contents =
      output.contents ++ stream := by
  induction lossless generalizing output with
  | ended calls => rw [copyAll, if_pos (fread_ended calls), List.append_nil]
  | @copied calls stream read written rest ih =>
      rw [copyAll, if_neg (mt List.eq_nil_of_length_eq_zero read), ih,
        output.contents_fwrite written, List.append_assoc, fread_append_drop]

/-- It leaves as many bytes in the buffer as its calls say. -/
theorem length_buffer_copyAll {calls : Nat} {stream : List Byte}
    (lossless : Lossless readLimit write bufferSize calls stream) (output : OutputStream) :
    (copyAll readLimit write bufferSize calls stream output).buffer.length =
      waitsAll readLimit write bufferSize calls stream output.buffer.length := by
  induction lossless generalizing output with
  | ended calls => rw [copyAll, waitsAll, if_pos (fread_ended calls), if_pos (fread_ended calls)]
  | @copied calls stream read written rest ih =>
      have more := mt List.eq_nil_of_length_eq_zero read
      rw [copyAll, waitsAll, if_neg more, if_neg more, ih, output.length_buffer_fwrite written]

/-- If no call drops bytes, the output grows by what the calls take. -/
theorem contents_copyAll_keeps (keeps : ∀ call, (write call).Keeps) (calls : Nat)
    (stream : List Byte) (output : OutputStream) :
    (copyAll readLimit write bufferSize calls stream output).contents =
      output.contents ++ copied readLimit write bufferSize calls stream := by
  fun_induction copyAll with
  | case1 calls stream output buf ended => rw [copied, if_pos ended, List.append_nil]
  | case2 calls stream output buf more ih =>
      have taken : copied readLimit write bufferSize calls stream =
          transfer (write calls).limit buf ++
            copied readLimit write bufferSize (calls + 1) (stream.drop buf.length) := by
        rw [copied, if_neg more]
      rw [ih, output.contents_fwrite_keeps (keeps calls), taken, List.append_assoc]

/-- Whatever fails, the output holds what is left of its contents and of what the calls
take. -/
theorem copyAll_remains (head : List Byte) (calls : Nat) (stream : List Byte)
    (output : OutputStream) : ∀ total, Remains head total output.contents →
      Remains head (total + (copied readLimit write bufferSize calls stream).length)
        (copyAll readLimit write bufferSize calls stream output).contents := by
  fun_induction copyAll with
  | case1 calls stream output buf ended =>
      intro total remains
      rw [copied, if_pos ended]
      exact remains
  | case2 calls stream output buf more ih =>
      intro total remains
      rw [copied, if_neg more, List.length_append, ← Nat.add_assoc]
      exact ih _ (remains.fwrite (write calls) buf)

/-- The loop copies at most what the stream holds, and exactly that if nothing is lost. -/
theorem length_copied (readLimit : Nat → Option Nat) (write : Nat → WriteResult)
    (bufferSize calls : Nat) (stream : List Byte) :
    (copied readLimit write bufferSize calls stream).length ≤ stream.length ∧
      ((copied readLimit write bufferSize calls stream).length = stream.length ↔
        Lossless readLimit write bufferSize calls stream) := by
  induction same : stream.length using Nat.strong_induction_on generalizing calls stream with
  | _ size ih =>
      have consumed := length_fread_le (readLimit calls) bufferSize stream
      have written := length_transfer_le (write calls).limit
        (fread (readLimit calls) bufferSize stream)
      by_cases ended : (fread (readLimit calls) bufferSize stream).length = 0
      · rw [copied, if_pos ended, List.length_nil]
        refine ⟨Nat.zero_le _, ?_⟩
        constructor
        · intro empty
          rw [List.eq_nil_of_length_eq_zero (same.trans empty.symm)]
          exact .ended calls
        · intro lossless
          cases lossless with
          | ended => exact same
          | copied read _ _ => exact absurd (List.eq_nil_of_length_eq_zero ended) read
      · have shorter : (stream.drop (fread (readLimit calls) bufferSize stream).length).length <
            size := same ▸ length_rest_lt ended
        obtain ⟨bound, exact_iff⟩ := ih _ shorter (calls + 1) _ rfl
        rw [copied, if_neg ended, List.length_append]
        rw [List.length_drop] at bound exact_iff
        refine ⟨by omega, ?_⟩
        constructor
        · intro whole
          refine .copied (fun empty => ended (by rw [empty, List.length_nil])) ?_
            (exact_iff.mp (by omega))
          exact length_of_length_transfer (by omega)
        · intro lossless
          cases lossless with
          | ended => exact absurd (Nat.le_zero.mp consumed) ended
          | copied _ written rest =>
              rw [written, exact_iff.mpr rest]
              omega

end CopyAll

/-! ## Copying a number of bytes -/

/-- The variables of a loop that copies a number of bytes. -/
structure Copying where
  missing : Nat
  stream : List Byte
  output : OutputStream
  calls : Nat
deriving DecidableEq, Repr

/-- One iteration of `while (missing > 0)`: read at most a buffer, and unless that
gave nothing write it and count it. -/
def Copying.next (readLimit : Nat → Option Nat) (write : Nat → WriteResult) (bufferSize : Nat)
    (state : Copying) : Copying :=
  let count := if bufferSize < state.missing then bufferSize else state.missing
  let buf := fread (readLimit state.calls) count state.stream
  if buf.length ≠ 0 then
    { missing := state.missing - buf.length
      stream := state.stream.drop buf.length
      output := state.output.fwrite (write state.calls) buf
      calls := state.calls + 1 }
  else { state with calls := state.calls + 1 }

/-- Copy `missing` bytes to a new stream. At the end of the stream the loop does not end. -/
def copyMissing (readLimit : Nat → Option Nat) (write : Nat → WriteResult)
    (bufferSize fuel missing : Nat) (stream : List Byte) : Option OutputStream :=
  (loop (fun state => decide (0 < state.missing)) (Copying.next readLimit write bufferSize)
    fuel ⟨missing, stream, .empty, 0⟩).map Copying.output

/-- One successful iteration moves a full buffer or all that is missing. -/
theorem Copying.next_eq {readLimit : Nat → Option Nat} {write : Nat → WriteResult}
    {bufferSize : Nat} (reads : ∀ call, readLimit call = none) (room : 0 < bufferSize)
    {state : Copying} (more : 0 < state.missing)
    (enough : state.missing ≤ state.stream.length) :
    state.next readLimit write bufferSize =
      { missing := state.missing - min bufferSize state.missing
        stream := state.stream.drop (min bufferSize state.missing)
        output := state.output.fwrite (write state.calls)
          (state.stream.take (min bufferSize state.missing))
        calls := state.calls + 1 } := by
  have count : (if bufferSize < state.missing then bufferSize else state.missing) =
      min bufferSize state.missing := by
    split <;> omega
  have size : (state.stream.take (min bufferSize state.missing)).length =
      min bufferSize state.missing := by
    rw [List.length_take]
    omega
  simp only [Copying.next, reads, fread_none, count, size]
  rw [if_pos (by omega)]

/-- If no call fails and the stream holds all the bytes, they are copied. -/
theorem copyMissing_eq {readLimit : Nat → Option Nat} {write : Nat → WriteResult}
    {bufferSize : Nat} (reads : ∀ call, readLimit call = none)
    (writes : ∀ call, (write call).limit = none) (room : 0 < bufferSize) {fuel missing : Nat}
    {stream : List Byte} (enough : missing ≤ stream.length) (fueled : missing < fuel) :
    ∃ output, copyMissing readLimit write bufferSize fuel missing stream = some output ∧
      output.contents = stream.take missing := by
  -- What is already written and what is still missing always make up the result.
  let Invariant (state : Copying) : Prop := state.missing ≤ state.stream.length ∧
    state.output.contents ++ state.stream.take state.missing = stream.take missing
  have preserved : ∀ state : Copying, decide (0 < state.missing) = true → Invariant state →
      Invariant (state.next readLimit write bufferSize) := by
    intro state test invariant
    have more := of_decide_eq_true test
    rw [Copying.next_eq reads room more invariant.1]
    obtain ⟨enough, copied⟩ := invariant
    have split : min bufferSize state.missing +
        (state.missing - min bufferSize state.missing) = state.missing := by omega
    constructor
    · dsimp only
      rw [List.length_drop]
      omega
    · dsimp only
      rw [state.output.contents_fwrite (by rw [writes, transfer_none]), List.append_assoc,
        ← List.take_add, split, copied]
  have decreases : ∀ state : Copying, decide (0 < state.missing) = true → Invariant state →
      (state.next readLimit write bufferSize).missing < state.missing := by
    intro state test invariant
    have more := of_decide_eq_true test
    rw [Copying.next_eq reads room more invariant.1]
    dsimp only
    omega
  have initial : Invariant ⟨missing, stream, .empty, 0⟩ := ⟨enough, rfl⟩
  obtain ⟨final, run, invariant, done⟩ :=
    loop_terminates Copying.missing preserved decreases initial fueled
  have nothing : final.missing = 0 := by simpa using done
  have copied := invariant.2
  rw [nothing, List.take_zero, List.append_nil] at copied
  exact ⟨final.output, by rw [copyMissing, run, Option.map_some], copied⟩

/-- If the stream ends before all the bytes are read, the loop does not end, whatever the
calls transfer. -/
theorem copyMissing_short (readLimit : Nat → Option Nat) (write : Nat → WriteResult)
    (bufferSize fuel : Nat) {missing : Nat} {stream : List Byte}
    (short : stream.length < missing) :
    copyMissing readLimit write bufferSize fuel missing stream = none := by
  have preserved : ∀ state : Copying, state.stream.length < state.missing →
      (state.next readLimit write bufferSize).stream.length <
        (state.next readLimit write bufferSize).missing := by
    intro state short
    unfold Copying.next
    dsimp only
    generalize (if bufferSize < state.missing then bufferSize else state.missing) = count
    have consumed := length_fread_le (readLimit state.calls) count state.stream
    split
    · dsimp only
      rw [List.length_drop]
      omega
    · exact short
  rw [copyMissing, loop_diverges (fun state short => decide_eq_true (Nat.zero_lt_of_lt short))
    preserved short, Option.map_none]

end Systems
