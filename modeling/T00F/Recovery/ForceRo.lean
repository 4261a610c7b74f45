import T00F.Recovery.Emmc

/-!
# Read-only mode of the boot partitions

What `write_umip_emmc` does to the `force_ro` nodes, for any answers of the kernel.
`writeBoot_cases_forceRo` gives the calls of one iteration of the loop,
`writeUmipEmmc_readOnly_iff` says when a run leaves behind what its result promises.
-/

namespace T00F.Recovery

open Systems

/-- A call is appended to the calls made. -/
@[simp] theorem Device.call_calls (device : Device) (call : Call) :
    (device.call call).calls = device.calls ++ [call] := rfl

@[simp] theorem Device.store_calls (device : Device) (index : Fin 2) (partition : Partition) :
    (device.store index partition).calls = device.calls ++ [.store index] := rfl

/-- The calls of `set_force_ro` after `n` others. -/
def forceRoCalls (kernel : Kernel) (index : Fin 2) (readOnly : Bool) (n : Nat) : List Call :=
  if kernel.openForceRo n < 0 then [.openForceRo index (kernel.openForceRo n)]
  else
    [.openForceRo index (kernel.openForceRo n),
      .writeForceRo index readOnly (kernel.writeForceRo (n + 1)), .closeForceRo index]

/-- `set_force_ro` makes its own calls, in order. -/
@[simp] theorem setForceRo_calls (kernel : Kernel) (index : Fin 2) (readOnly : Bool)
    (device : Device) : (setForceRo kernel index readOnly device).2.calls =
      device.calls ++ forceRoCalls kernel index readOnly device.calls.length := by
  simp only [setForceRo, forceRoCalls]
  split
  · rfl
  · split <;> simp

/-- A write that returns 0 counts as a success. -/
theorem setForceRo_eq_zero_iff (kernel : Kernel) (index : Fin 2) (readOnly : Bool)
    (device : Device) : (setForceRo kernel index readOnly device).1 = 0 ↔
      0 ≤ kernel.openForceRo device.calls.length ∧
        0 ≤ kernel.writeForceRo (device.calls.length + 1) := by
  simp only [setForceRo, Device.call_calls, List.length_append, List.length_singleton]
  split
  · omega
  · split
    · omega
    · simp only [true_iff]
      omega

/-! ## What the result promises -/

/-- 1 was written to `force_ro` of a partition after everything that was stored there. -/
def Restored (index : Fin 2) (calls : List Call) : Prop :=
  ∃ before after ret, calls = before ++ .writeForceRo index true ret :: after ∧ 0 < ret ∧
    .store index ∉ after

/-- 1 was to be written to `force_ro`: the node could not be opened, or the write was
made. -/
def RestoreAttempted (index : Fin 2) (calls : List Call) : Prop :=
  (∃ fd < 0, .openForceRo index fd ∈ calls) ∨ ∃ ret, .writeForceRo index true ret ∈ calls

/-- Wherever `force_ro` was cleared, 1 was to be written to it afterwards. -/
def ClearsUndone (index : Fin 2) (calls : List Call) : Prop :=
  ∀ before ret after, calls = before ++ .writeForceRo index false ret :: after → 0 < ret →
    RestoreAttempted index after

/-- A run leaves both partitions read-only or has at least tried to. -/
def ReadOnlyRestored (ret : Int) (calls : List Call) : Prop :=
  (ret = 0 ∧ ∀ index, Restored index calls) ∨ (ret = -1 ∧ ∀ index, ClearsUndone index calls)

/-- Calls before do not undo the attempt to restore. -/
theorem RestoreAttempted.append_left {index : Fin 2} {calls : List Call}
    (attempted : RestoreAttempted index calls) (before : List Call) :
    RestoreAttempted index (before ++ calls) := by
  rcases attempted with ⟨fd, failed, member⟩ | ⟨ret, member⟩
  · exact Or.inl ⟨fd, failed, List.mem_append_right _ member⟩
  · exact Or.inr ⟨ret, List.mem_append_right _ member⟩

/-- Calls after do not undo the attempt to restore. -/
theorem RestoreAttempted.append_right {index : Fin 2} {calls : List Call}
    (attempted : RestoreAttempted index calls) (after : List Call) :
    RestoreAttempted index (calls ++ after) := by
  rcases attempted with ⟨fd, failed, member⟩ | ⟨ret, member⟩
  · exact Or.inl ⟨fd, failed, List.mem_append_left _ member⟩
  · exact Or.inr ⟨ret, List.mem_append_left _ member⟩

/-- Setting the node is an attempt, whatever its calls answer. -/
theorem forceRoCalls_attempted (kernel : Kernel) (index : Fin 2) (n : Nat) :
    RestoreAttempted index (forceRoCalls kernel index true n) := by
  unfold forceRoCalls
  split
  next failed => exact Or.inl ⟨_, failed, List.mem_singleton_self _⟩
  next => exact Or.inr ⟨_, List.mem_cons_of_mem _ List.mem_cons_self⟩

/-- Clears that are undone in two parts of a run are undone in the whole. -/
theorem ClearsUndone.append {index : Fin 2} {calls more : List Call}
    (first : ClearsUndone index calls) (second : ClearsUndone index more) :
    ClearsUndone index (calls ++ more) := by
  intro before ret after split cleared
  rcases List.append_eq_append_iff.mp split with ⟨middle, rfl, tail⟩ | ⟨middle, head, tail⟩
  · exact second middle ret after tail cleared
  · cases middle with
    | nil => exact second [] ret after tail.symm cleared
    | cons call middle =>
        rw [List.cons_append, List.cons_eq_cons] at tail
        obtain ⟨rfl, rfl⟩ := tail
        exact (first before ret middle head cleared).append_right more

/-- So are clears that an attempt follows. -/
theorem ClearsUndone.attempted {index : Fin 2} (calls : List Call) {more : List Call}
    (second : ClearsUndone index more) (attempted : RestoreAttempted index more) :
    ClearsUndone index (calls ++ more) := by
  intro before ret after split cleared
  rcases List.append_eq_append_iff.mp split with ⟨middle, rfl, tail⟩ | ⟨middle, _, tail⟩
  · exact second middle ret after tail cleared
  · cases middle with
    | nil => exact second [] ret after tail.symm cleared
    | cons call middle =>
        rw [List.cons_append, List.cons_eq_cons] at tail
        obtain ⟨_, rfl⟩ := tail
        exact attempted.append_left middle

/-- Calls that clear nothing leave nothing to undo. -/
theorem clearsUndone_of_noClear {index : Fin 2} {calls : List Call}
    (noClear : ∀ ret > 0, .writeForceRo index false ret ∉ calls) : ClearsUndone index calls := by
  rintro before ret after rfl cleared
  exact absurd (List.mem_append_right _ List.mem_cons_self) (noClear ret cleared)

/-! ## One iteration -/

/-- The calls of an iteration that starts after `n` others let it go through. -/
structure BootPasses (kernel : Kernel) (addrOffset size n : Nat) : Prop where
  opened : 0 ≤ kernel.openForceRo n
  cleared : 0 ≤ kernel.writeForceRo (n + 1)
  bootOpened : 0 ≤ kernel.openBoot (n + 3)
  mapped : kernel.mmap (n + 4) = true
  fits : (addrOffset + size) % 2 ^ 32 ≤ bootIfwiSize
  reopened : 0 ≤ kernel.openForceRo (n + 8)
  restored : 0 ≤ kernel.writeForceRo (n + 9)

/-- The calls of such an iteration up to the close of the partition. -/
def writtenCalls (kernel : Kernel) (index : Fin 2) (n : Nat) : List Call :=
  [.openForceRo index (kernel.openForceRo n),
    .writeForceRo index false (kernel.writeForceRo (n + 1)), .closeForceRo index,
    .openBoot index (kernel.openBoot (n + 3)), .mmap index true, .store index, .munmap index,
    .closeBoot index]

/-- All its calls. -/
def passedCalls (kernel : Kernel) (index : Fin 2) (n : Nat) : List Call :=
  writtenCalls kernel index n ++
    [.openForceRo index (kernel.openForceRo (n + 8)),
      .writeForceRo index true (kernel.writeForceRo (n + 9)), .closeForceRo index]

/-- A partition that passes takes eleven calls. -/
theorem length_passedCalls (kernel : Kernel) (index : Fin 2) (n : Nat) :
    (passedCalls kernel index n).length = 11 := rfl

/-- The write that `set_force_ro` makes. -/
theorem mem_forceRoCalls {kernel : Kernel} {index other : Fin 2} {readOnly value : Bool} {n : Nat}
    {ret : Int} (member : .writeForceRo other value ret ∈ forceRoCalls kernel index readOnly n) :
    value = readOnly ∧ ret = kernel.writeForceRo (n + 1) ∧ 0 ≤ kernel.openForceRo n := by
  unfold forceRoCalls at member
  split at member
  · simp at member
  next opened =>
    simp only [List.mem_cons, Call.writeForceRo.injEq, reduceCtorEq, List.not_mem_nil, false_or,
      or_false] at member
    exact ⟨member.2.1, member.2.2, Int.not_lt.mp opened⟩

/-- The calls from label `err_boot1` on clear nothing, and set the node if the flag is
set. -/
theorem errBoot1_calls (kernel : Kernel) (addrOffset : Nat) (index : Fin 2) (locals : Locals)
    (device : Device) : ∃ after calls,
      errBoot1 kernel addrOffset index locals device = (-1, after) ∧
      after.calls = device.calls ++ calls ∧ (∀ other, ClearsUndone other calls) ∧
      (locals.bootPartitionWritable = true → RestoreAttempted index calls) := by
  let released : List Call := (if addrOffset = ifwiOffset then [.free] else []) ++
    if 0 ≤ locals.bootFd then [.closeBoot index] else []
  have releases : ∀ other value ret, .writeForceRo other value ret ∉ released := by
    intro other value ret member
    simp only [released] at member
    split_ifs at member <;> simp at member
  refine ⟨_, released ++ if locals.bootPartitionWritable then
    forceRoCalls kernel index true (device.calls ++ released).length else [], rfl, ?_, ?_, ?_⟩
  · simp only [released]
    split_ifs <;> simp
  · intro other
    apply clearsUndone_of_noClear
    intro ret cleared member
    rcases List.mem_append.mp member with early | late
    · exact releases other false ret early
    · split at late
      · exact Bool.false_ne_true (mem_forceRoCalls late).1
      · cases late
  · intro writable
    rw [if_pos writable]
    exact (forceRoCalls_attempted kernel index _).append_left released

/-- Failing with the flag set undoes what the iteration has cleared. -/
theorem errBoot1_undone (kernel : Kernel) (addrOffset : Nat) {index : Fin 2} {locals : Locals}
    (writable : locals.bootPartitionWritable = true) {device device' : Device} {early : List Call}
    (made : device'.calls = device.calls ++ early)
    (own : ∀ other ret, .writeForceRo other false ret ∈ early → other = index) :
    ∃ after calls, errBoot1 kernel addrOffset index locals device' = (-1, after) ∧
      after.calls = device.calls ++ calls ∧ ∀ other, ClearsUndone other calls := by
  obtain ⟨after, calls, run, late, undone, attempted⟩ :=
    errBoot1_calls kernel addrOffset index locals device'
  refine ⟨after, early ++ calls, run, ?_, fun other => ?_⟩
  · rw [late, made, List.append_assoc]
  · by_cases same : other = index
    · subst same
      exact (undone other).attempted early (attempted writable)
    · refine ClearsUndone.append (clearsUndone_of_noClear fun ret _ member => ?_) (undone other)
      exact same (own other ret member)

/-- One call more. -/
theorem calls_call {device device' : Device} {early : List Call}
    (made : device'.calls = device.calls ++ early) (call : Call) :
    (device'.call call).calls = device.calls ++ (early ++ [call]) := by
  rw [Device.call_calls, made, List.append_assoc]

/-- So an iteration that fails with the flag set ends the run with every clear undone. -/
theorem errBoot1_stops (kernel : Kernel) (addrOffset : Nat) {index : Fin 2} {locals : Locals}
    (writable : locals.bootPartitionWritable = true) {device device' : Device} {early : List Call}
    (made : device'.calls = device.calls ++ early)
    (own : ∀ other ret, .writeForceRo other false ret ∈ early → other = index) :
    ∃ after calls, (.error (errBoot1 kernel addrOffset index locals device') :
        Except (Int × Device) (Locals × Device)) = .error (-1, after) ∧
      after.calls = device.calls ++ calls ∧ ∀ other, ClearsUndone other calls := by
  obtain ⟨after, calls, run, late⟩ := errBoot1_undone kernel addrOffset writable made own
  exact ⟨after, calls, congrArg Except.error run, late⟩

/-- The last `set_force_ro` of an iteration that has closed its partition. -/
theorem restore_cases (kernel : Kernel) (addrOffset : Nat) {index : Fin 2} {locals : Locals}
    (writable : locals.bootPartitionWritable = true) {device device' : Device}
    (made : device'.calls = device.calls ++ writtenCalls kernel index device.calls.length) :
    ((0 ≤ kernel.openForceRo (device.calls.length + 8) ∧
        0 ≤ kernel.writeForceRo (device.calls.length + 9)) ∧
      (setForceRo kernel index true device').1 = 0 ∧
      (setForceRo kernel index true device').2.calls =
        device.calls ++ passedCalls kernel index device.calls.length) ∨
    (¬ (0 ≤ kernel.openForceRo (device.calls.length + 8) ∧
        0 ≤ kernel.writeForceRo (device.calls.length + 9)) ∧
      (setForceRo kernel index true device').1 ≠ 0 ∧ ∃ after calls,
      errBoot1 kernel addrOffset index locals (setForceRo kernel index true device').2 =
        (-1, after) ∧
      after.calls = device.calls ++ calls ∧ ∀ other, ClearsUndone other calls) := by
  have length : device'.calls.length = device.calls.length + 8 := by
    rw [made, List.length_append]
    rfl
  have switched := setForceRo_eq_zero_iff kernel index true device'
  have calls := setForceRo_calls kernel index true device'
  rw [length] at switched calls
  rw [made, List.append_assoc] at calls
  by_cases restored : (setForceRo kernel index true device').1 = 0
  · left
    have reopened := (switched.mp restored).1
    rw [forceRoCalls, if_neg (Int.not_lt.mpr reopened)] at calls
    exact ⟨switched.mp restored, restored, calls⟩
  · right
    refine ⟨mt switched.mpr restored, restored,
      errBoot1_undone kernel addrOffset writable calls fun other ret member => ?_⟩
    rcases List.mem_append.mp member with early | late
    · simp only [writtenCalls, List.mem_cons, Call.writeForceRo.injEq, reduceCtorEq,
        List.not_mem_nil, false_or, or_false] at early
      exact early.1
    · exact absurd (mem_forceRoCalls late).1 Bool.false_ne_true

/-- An iteration goes through, or ends the run with every clear undone. -/
theorem writeBoot_cases_forceRo (kernel : Kernel) (addrOffset : Nat) (data : Option (List Byte))
    (size : Nat) (index : Fin 2) (locals : Locals) (device : Device) :
    (BootPasses kernel addrOffset size device.calls.length ∧ ∃ locals' after,
      writeBoot kernel addrOffset data size index locals device = .ok (locals', after) ∧
      after.calls = device.calls ++ passedCalls kernel index device.calls.length) ∨
    (¬ BootPasses kernel addrOffset size device.calls.length ∧ ∃ after calls,
      writeBoot kernel addrOffset data size index locals device = .error (-1, after) ∧
      after.calls = device.calls ++ calls ∧ ∀ other, ClearsUndone other calls) := by
  have switched := setForceRo_eq_zero_iff kernel index false device
  have calls₁ := setForceRo_calls kernel index false device
  unfold writeBoot
  dsimp only
  generalize setForceRo kernel index false device = result at switched calls₁ ⊢
  obtain ⟨ret, device₁⟩ := result
  dsimp only at switched calls₁ ⊢
  by_cases forced : ret ≠ 0
  · -- Nothing was cleared, so nothing has to be undone.
    right
    rw [if_pos forced]
    obtain ⟨after, calls, run, late, undone, _⟩ :=
      errBoot1_calls kernel addrOffset index locals device₁
    refine ⟨fun passes => forced (switched.mpr ⟨passes.opened, passes.cleared⟩), after,
      forceRoCalls kernel index false device.calls.length ++ calls, congrArg Except.error run, ?_,
      fun other => ClearsUndone.append ?_ (undone other)⟩
    · rw [late, calls₁, List.append_assoc]
    · apply clearsUndone_of_noClear
      intro written positive member
      obtain ⟨_, rfl, opened⟩ := mem_forceRoCalls member
      exact forced (switched.mpr ⟨opened, Int.le_of_lt positive⟩)
  · rw [if_neg forced]
    obtain ⟨opened, cleared⟩ := switched.mp (not_not.mp forced)
    rw [forceRoCalls, if_neg (Int.not_lt.mpr opened)] at calls₁
    have length₁ : device₁.calls.length = device.calls.length + 3 := by simp [calls₁]
    rw [length₁]
    generalize bootOpened : kernel.openBoot (device.calls.length + 3) = fd
    have calls₂ : (device₁.call (.openBoot index fd)).calls = device.calls ++
        [.openForceRo index (kernel.openForceRo device.calls.length),
          .writeForceRo index false (kernel.writeForceRo (device.calls.length + 1)),
          .closeForceRo index, .openBoot index fd] := by simp [calls₁]
    generalize device₁.call (.openBoot index fd) = device₂ at calls₂ ⊢
    have length₂ : device₂.calls.length = device.calls.length + 4 := by simp [calls₂]
    rw [length₂]
    by_cases bootFailed : fd < 0
    · right
      rw [if_pos bootFailed]
      exact ⟨fun passes => Int.not_lt.mpr passes.bootOpened (bootOpened ▸ bootFailed),
        errBoot1_stops kernel addrOffset rfl calls₂ (by simp)⟩
    · rw [if_neg bootFailed]
      cases mapped : kernel.mmap (device.calls.length + 4) with
      | false =>
          right
          rw [if_pos rfl]
          exact ⟨fun passes => Bool.false_ne_true (mapped.symm.trans passes.mapped),
            errBoot1_stops kernel addrOffset rfl (calls_call calls₂ _) (by simp)⟩
      | true =>
          rw [if_neg (by decide)]
          have calls₃ : (device₂.call (.mmap index true)).calls = device.calls ++
              [.openForceRo index (kernel.openForceRo device.calls.length),
                .writeForceRo index false (kernel.writeForceRo (device.calls.length + 1)),
                .closeForceRo index, .openBoot index fd, .mmap index true] := by simp [calls₂]
          generalize device₂.call (.mmap index true) = device₃ at calls₃ ⊢
          generalize saved : (if addrOffset = ifwiOffset then _ else _ : Locals) = locals₃
          have writable : locals₃.bootPartitionWritable = true := by
            rw [← saved]
            split <;> rfl
          by_cases fits : (addrOffset + size) % 2 ^ 32 ≤ bootIfwiSize
          · rw [if_pos fits]
            generalize xorUpdate _ = partition
            have calls₄ : (((device₃.store index partition).call (.munmap index)).call
                (.closeBoot index)).calls =
                  device.calls ++ writtenCalls kernel index device.calls.length := by
              simp [calls₃, writtenCalls, bootOpened]
            generalize Device.call _ (.closeBoot index) = device₄ at calls₄ ⊢
            rcases @restore_cases kernel addrOffset index { locals₃ with bootFd := -1 } writable
              device device₄ calls₄ with ⟨⟨reopened, written⟩, restored, calls₅⟩ |
                ⟨stopped, failed, after, calls, run, late⟩
            · left
              rw [if_neg (not_not.mpr restored)]
              exact ⟨⟨opened, cleared, bootOpened ▸ Int.not_lt.mp bootFailed, mapped, fits, reopened,
                written⟩, _, _, rfl, calls₅⟩
            · right
              rw [if_pos failed]
              exact ⟨fun passes => stopped ⟨passes.reopened, passes.restored⟩, after, calls,
                congrArg Except.error run, late⟩
          · right
            rw [if_neg fits]
            exact ⟨fun passes => fits passes.fits,
              errBoot1_stops kernel addrOffset writable (calls_call calls₃ _) (by simp)⟩

/-! ## The whole run -/

/-- The size that is written, cut for a whole IFWI. -/
def writtenSize (addrOffset size : Nat) : Nat :=
  if addrOffset = ifwiOffset ∧ bootIfwiSize < size then bootIfwiSize else size

/-- How many calls precede the first iteration of a run that follows `n` calls. -/
def firstBoot (addrOffset n : Nat) : Nat := if addrOffset = ifwiOffset then n + 1 else n

/-- The calls of a run that follows `n` others let it go through: the token buffer is
allocated, and both iterations go through. -/
structure RunPasses (kernel : Kernel) (addrOffset size n : Nat) : Prop where
  allocated : addrOffset = ifwiOffset → kernel.malloc n = true
  first : BootPasses kernel addrOffset (writtenSize addrOffset size) (firstBoot addrOffset n)
  second : BootPasses kernel addrOffset (writtenSize addrOffset size) (firstBoot addrOffset n + 11)

/-- What a run does with the token buffer before the loop. -/
def allocation (addrOffset : Nat) : List Call :=
  if addrOffset = ifwiOffset then [.malloc true] else []

/-- The calls of a run that goes through. -/
def runCalls (kernel : Kernel) (addrOffset n : Nat) : List Call :=
  allocation addrOffset ++
    (List.finRange 2).flatMap (fun index =>
      passedCalls kernel index (firstBoot addrOffset n + 11 * index.val)) ++
      if addrOffset = ifwiOffset then [.free] else []

/-- The calls of a passing run: the allocation, both partitions and the release. -/
theorem runCalls_eq (kernel : Kernel) (addrOffset n : Nat) : runCalls kernel addrOffset n =
    allocation addrOffset ++ passedCalls kernel 0 (firstBoot addrOffset n) ++
      passedCalls kernel 1 (firstBoot addrOffset n + 11) ++
        if addrOffset = ifwiOffset then [.free] else [] := by
  simp [runCalls, List.finRange_succ]

/-- The calls on a partition that passes undo what they clear. -/
theorem passedCalls_undone (kernel : Kernel) (index other : Fin 2) (n : Nat) :
    ClearsUndone other (passedCalls kernel index n) := by
  have last : ClearsUndone other [.openForceRo index (kernel.openForceRo (n + 8)),
      .writeForceRo index true (kernel.writeForceRo (n + 9)), .closeForceRo index] :=
    clearsUndone_of_noClear (by simp)
  by_cases same : other = index
  · subst same
    exact last.attempted _ (Or.inr ⟨_, List.mem_cons_of_mem _ List.mem_cons_self⟩)
  · refine ClearsUndone.append (clearsUndone_of_noClear fun ret _ member => ?_) last
    simp [writtenCalls, same] at member

/-- The allocation clears nothing. -/
theorem allocation_undone (addrOffset : Nat) (index : Fin 2) :
    ClearsUndone index (allocation addrOffset) := by
  apply clearsUndone_of_noClear
  intro ret _ member
  unfold allocation at member
  split at member <;> simp at member

/-- A run goes through, or ends with every clear undone. -/
theorem writeUmipEmmc_cases (kernel : Kernel) (addrOffset : Nat) (data : Option (List Byte))
    (size : Nat) (device : Device) :
    (RunPasses kernel addrOffset size device.calls.length ∧ ∃ after,
      writeUmipEmmc kernel addrOffset data size device = (0, after) ∧
      after.calls = device.calls ++ runCalls kernel addrOffset device.calls.length) ∨
    (¬ RunPasses kernel addrOffset size device.calls.length ∧ ∃ after calls,
      writeUmipEmmc kernel addrOffset data size device = (-1, after) ∧
      after.calls = device.calls ++ calls ∧ ∀ index, ClearsUndone index calls) := by
  unfold writeUmipEmmc
  dsimp only
  by_cases outOfMemory : addrOffset = ifwiOffset ∧ kernel.malloc device.calls.length = false
  · right
    rw [if_pos outOfMemory, if_pos outOfMemory.1]
    refine ⟨fun passes => ?_, _, _, rfl, rfl, fun index => clearsUndone_of_noClear (by simp)⟩
    exact Bool.false_ne_true (outOfMemory.2.symm.trans (passes.allocated outOfMemory.1))
  · rw [if_neg outOfMemory]
    have allocated : addrOffset = ifwiOffset → kernel.malloc device.calls.length = true := by
      intro ifwi
      simpa [ifwi] using outOfMemory
    have calls₀ : (if addrOffset = ifwiOffset then
        device.call (.malloc (kernel.malloc device.calls.length)) else device).calls =
          device.calls ++ allocation addrOffset := by
      unfold allocation
      split
      next ifwi => rw [allocated ifwi, Device.call_calls]
      next => rw [List.append_nil]
    generalize (if addrOffset = ifwiOffset then
      device.call (.malloc (kernel.malloc device.calls.length)) else device) = device₀ at calls₀ ⊢
    have length₀ : device₀.calls.length = firstBoot addrOffset device.calls.length := by
      rw [calls₀, List.length_append, allocation, firstBoot]
      split <;> rfl
    have cut : (if addrOffset = ifwiOffset ∧ bootIfwiSize < size then bootIfwiSize else size) =
      writtenSize addrOffset size := rfl
    rw [cut]
    rcases writeBoot_cases_forceRo kernel addrOffset data (writtenSize addrOffset size) 0
      ⟨-1, false, []⟩ device₀ with ⟨first, locals₁, device₁, run₁, calls₁⟩ |
        ⟨stopped, after, calls, run₁, late, undone⟩
    · rw [run₁]
      dsimp only
      have length₁ : device₁.calls.length = firstBoot addrOffset device.calls.length + 11 := by
        rw [calls₁, List.length_append, length_passedCalls, length₀]
      rcases writeBoot_cases_forceRo kernel addrOffset data (writtenSize addrOffset size) 1 locals₁
        device₁ with ⟨second, locals₂, device₂, run₂, calls₂⟩ |
          ⟨stopped, after, calls, run₂, late, undone⟩
      · left
        rw [run₂]
        rw [length₀] at first calls₁
        rw [length₁] at second calls₂
        refine ⟨⟨allocated, first, second⟩, _, rfl, ?_⟩
        rw [runCalls_eq]
        split
        · simp [calls₂, calls₁, calls₀]
        · simp [calls₂, calls₁, calls₀]
      · right
        rw [run₂]
        rw [length₁] at stopped
        rw [length₀] at calls₁
        refine ⟨fun passes => stopped passes.second, after, allocation addrOffset ++
          passedCalls kernel 0 (firstBoot addrOffset device.calls.length) ++ calls, rfl, ?_,
          fun index => ?_⟩
        · simp [late, calls₁, calls₀]
        · exact ((allocation_undone addrOffset index).append
            (passedCalls_undone kernel 0 index _)).append (undone index)
    · right
      rw [run₁]
      rw [length₀] at stopped
      refine ⟨fun passes => stopped passes.first, after, allocation addrOffset ++ calls, rfl, ?_,
        fun index => (allocation_undone addrOffset index).append (undone index)⟩
      rw [late, calls₀, List.append_assoc]

/-- The writes of 1 in a run that goes through. -/
theorem mem_runCalls {kernel : Kernel} {addrOffset n : Nat} {index : Fin 2} {ret : Int}
    (member : .writeForceRo index true ret ∈ runCalls kernel addrOffset n) :
    index = 0 ∧ ret = kernel.writeForceRo (firstBoot addrOffset n + 9) ∨
      index = 1 ∧ ret = kernel.writeForceRo (firstBoot addrOffset n + 20) := by
  rw [runCalls_eq] at member
  unfold allocation passedCalls writtenCalls at member
  split_ifs at member <;> simpa [Nat.add_assoc] using member

/-- A run that goes through has restored both partitions exactly if the last write to each
`force_ro` node wrote something. -/
theorem runCalls_restored_iff (kernel : Kernel) (addrOffset n : Nat) :
    (∀ index, Restored index (runCalls kernel addrOffset n)) ↔
      0 < kernel.writeForceRo (firstBoot addrOffset n + 9) ∧
        0 < kernel.writeForceRo (firstBoot addrOffset n + 20) := by
  rw [Fin.forall_fin_two]
  constructor
  · have written : ∀ index, Restored index (runCalls kernel addrOffset n) →
        ∃ ret, 0 < ret ∧ .writeForceRo index true ret ∈ runCalls kernel addrOffset n := by
      rintro index ⟨before, after, ret, calls, positive, _⟩
      rw [calls]
      exact ⟨ret, positive, List.mem_append_right _ List.mem_cons_self⟩
    rintro ⟨first, second⟩
    obtain ⟨ret, positive, member⟩ := written 0 first
    obtain ⟨ret', positive', member'⟩ := written 1 second
    constructor
    · rcases mem_runCalls member with ⟨_, rfl⟩ | ⟨other, _⟩
      · exact positive
      · cases other
    · rcases mem_runCalls member' with ⟨other, _⟩ | ⟨_, rfl⟩
      · cases other
      · exact positive'
  · rintro ⟨first, second⟩
    constructor
    · refine ⟨allocation addrOffset ++ (writtenCalls kernel 0 (firstBoot addrOffset n) ++
        [.openForceRo 0 (kernel.openForceRo (firstBoot addrOffset n + 8))]),
        .closeForceRo 0 :: passedCalls kernel 1 (firstBoot addrOffset n + 11) ++
          if addrOffset = ifwiOffset then [.free] else [], _, ?_, first, ?_⟩
      · simp [runCalls_eq, passedCalls]
      · split <;> simp [passedCalls, writtenCalls]
    · refine ⟨allocation addrOffset ++ passedCalls kernel 0 (firstBoot addrOffset n) ++
        (writtenCalls kernel 1 (firstBoot addrOffset n + 11) ++
          [.openForceRo 1 (kernel.openForceRo (firstBoot addrOffset n + 19))]),
        .closeForceRo 1 :: if addrOffset = ifwiOffset then [.free] else [], _, ?_, second, ?_⟩
      · simp [runCalls_eq, passedCalls, Nat.add_assoc]
      · split <;> simp

/-- Whatever the kernel answers, a run that returns 0 leaves both partitions read-only and
a run that returns -1 has tried to, exactly if some other call fails or both writes of 1
write something. -/
theorem writeUmipEmmc_readOnly_iff (kernel : Kernel) (addrOffset : Nat)
    (data : Option (List Byte)) (size : Nat) (device : Device) :
    (∃ ret after calls, writeUmipEmmc kernel addrOffset data size device = (ret, after) ∧
      after.calls = device.calls ++ calls ∧ ReadOnlyRestored ret calls) ↔
    (RunPasses kernel addrOffset size device.calls.length →
      0 < kernel.writeForceRo (firstBoot addrOffset device.calls.length + 9) ∧
        0 < kernel.writeForceRo (firstBoot addrOffset device.calls.length + 20)) := by
  rcases writeUmipEmmc_cases kernel addrOffset data size device with
    ⟨passes, after, run, made⟩ | ⟨stopped, after, calls, run, made, undone⟩
  · rw [run, ← runCalls_restored_iff]
    constructor
    · rintro ⟨ret, after', calls, same, made', restored⟩ _
      cases same
      rw [made, List.append_cancel_left_eq] at made'
      rcases restored with ⟨_, restored⟩ | ⟨failed, _⟩
      · exact made' ▸ restored
      · cases failed
    · intro condition
      exact ⟨0, after, _, rfl, made, Or.inl ⟨rfl, condition passes⟩⟩
  · refine iff_of_true ⟨-1, after, calls, run, made, Or.inr ⟨rfl, undone⟩⟩ ?_
    exact fun passes => absurd passes stopped

/-- The first restore writes nothing, without an error. -/
def Kernel.emptyWrite : Kernel :=
  { Kernel.reliable with writeForceRo := fun n => if n = 10 then 0 else 1 }

theorem emptyWrite_passes : RunPasses .emptyWrite ifwiOffset 1 0 where
  allocated _ := rfl
  first := by constructor <;> decide
  second := by constructor <;> decide

/-- The first partition stays writable after an update that returns 0. -/
theorem writeUmipEmmc_emptyWrite : ¬ ∃ ret after calls,
    writeUmipEmmc .emptyWrite ifwiOffset (some [0xAA#8]) 1 .blank = (ret, after) ∧
      after.calls = Device.blank.calls ++ calls ∧ ReadOnlyRestored ret calls := by
  rintro ⟨ret, after, calls, run, made, restored⟩
  rcases writeUmipEmmc_cases .emptyWrite ifwiOffset (some [0xAA#8]) 1 .blank with
    ⟨_, after', run', made'⟩ | ⟨stopped, _⟩
  · cases run.symm.trans run'
    cases (List.append_cancel_left_eq _ _ _).mp (made.symm.trans made')
    rcases restored with ⟨_, restored⟩ | ⟨failed, _⟩
    · exact absurd ((runCalls_restored_iff _ _ _).mp restored).1 (by decide)
    · cases failed
  · exact stopped emptyWrite_passes

end T00F.Recovery
