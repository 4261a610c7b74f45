import T00F.Graphics.GraphicBuffer

/-!
# What unflattening reads and releases

A call of `unflatten` is clean when it stays inside of its buffer and its descriptors and,
on failure, leaves no handle behind. `unflattenHandle_failed_iff` is about the failures
after the old handle has been freed; `unflattenClean_iff` says which calls are clean.
-/

namespace T00F.Graphics

open Systems

/-- The handle that an event is about. -/
def HandleEvent.handle : HandleEvent → HandleRef
  | .create handle => handle
  | .register handle => handle
  | .unregister handle => handle
  | .close handle => handle
  | .delete handle => handle
  | .free handle => handle

/-- What has been done about the handle that the object had. -/
def onPrevious (events : List HandleEvent) : List HandleEvent :=
  events.filter fun event => event.handle = .previous

/-- `free_handle` for the handle of the object, if it has one. -/
def GraphicBuffer.freed (object : GraphicBuffer) : List HandleEvent :=
  if object.handle.isSome then object.mOwner.release else []

/-- Zero dimensions and no handle. -/
structure GraphicBuffer.Empty (object : GraphicBuffer) : Prop where
  width : object.width = 0#32
  height : object.height = 0#32
  stride : object.stride = 0#32
  format : object.format = 0#32
  usage : object.usage = 0#32
  handle : object.handle = none

/-- The object is empty, the handle that it had is released once if it was owned, and a
handle that was created is closed and deleted. -/
structure CleanlyEmptied (object : GraphicBuffer) (call : Unflattening) : Prop where
  empty : call.object.Empty
  released : onPrevious call.events = object.freed
  discarded : .create .created ∈ call.events →
    .close .created ∈ call.events ∧ .delete .created ∈ call.events

/-- The call reads inside of what it is given, and a failure leaves nothing behind. -/
structure UnflattenClean (object : GraphicBuffer) (cursor : Cursor) (call : Unflattening) :
    Prop where
  words : ∀ index ∈ call.words, (index + 1) * 4 ≤ cursor.size
  fds : ∀ index ∈ call.fds, index < cursor.count
  failed : call.status ≠ noError →
    (call.object = object ∧ call.events = []) ∨ CleanlyEmptied object call

/-! ## Behind the header -/

theorem emptied_empty (object : GraphicBuffer) : object.emptied.Empty :=
  ⟨rfl, rfl, rfl, rfl, rfl, rfl⟩

theorem onPrevious_freed (object : GraphicBuffer) : onPrevious object.freed = object.freed := by
  unfold GraphicBuffer.freed
  split
  · cases object.mOwner <;> rfl
  · rfl

/-- Only the handle that the object had is given back. -/
theorem create_notMem_freed (object : GraphicBuffer) : .create .created ∉ object.freed := by
  unfold GraphicBuffer.freed
  split
  · cases object.mOwner <;> decide
  · exact List.not_mem_nil

variable (io : UnflattenIo) (memory : Memory) (object : GraphicBuffer) (cursor : Cursor)
  (numFds numInts : Nat)

/-- The words and descriptors that are read are those that the header counts. -/
theorem unflattenHandle_reads :
    let call := unflattenHandle io memory object cursor numFds numInts
    (∀ index ∈ call.words, index < 10 + numInts) ∧ ∀ index ∈ call.fds, index < numFds := by
  have within {words : List Nat} (header : ∀ index ∈ words, index < 10) :
      ∀ index ∈ words, index < 10 + numInts :=
    fun index member => Nat.lt_of_lt_of_le (header index member) (Nat.le_add_right _ _)
  have header : ∀ index ∈ [0, 8, 9, 1, 2, 3, 4, 5], index < 10 + numInts := within (by decide)
  have id : ∀ index ∈ [6, 7], index < 10 + numInts := within (by decide)
  have empty : ∀ index ∈ [0, 8, 9, 6, 7], index < 10 + numInts := within (by decide)
  have ints : ∀ index ∈ [0, 8, 9, 1, 2, 3, 4, 5] ++ (List.range numInts).map (10 + ·) ++ [6, 7],
      index < 10 + numInts := by
    simp only [List.forall_mem_append, List.forall_mem_map, List.mem_range]
    exact ⟨⟨header, fun index inside => Nat.add_lt_add_left inside 10⟩, id⟩
  have fds : ∀ index ∈ List.range numFds, index < numFds := fun _ => List.mem_range.mp
  have none : ∀ index ∈ ([] : List Nat), index < numFds :=
    fun _ absent => absurd absent List.not_mem_nil
  intro call
  simp only [call, unflattenHandle]
  split
  · split
    · exact ⟨header, none⟩
    · split
      · exact ⟨ints, fds⟩
      · exact ⟨ints, fds⟩
  · exact ⟨empty, none⟩

/-- The only failure that leaves a handle behind is the one of `registerBuffer`. -/
theorem unflattenHandle_failed_iff :
    let call := unflattenHandle io memory object cursor numFds numInts
    (call.status ≠ noError →
        (call.object = object ∧ call.events = []) ∨ CleanlyEmptied object call) ↔
      (numFds ≠ 0 ∨ numInts ≠ 0 → io.nativeHandleCreate → io.registerBuffer = noError) := by
  intro call
  by_cases some : numFds ≠ 0 ∨ numInts ≠ 0
  · cases create : io.nativeHandleCreate with
    | false =>
        have failed : call.events = object.freed ∧ call.object.Empty := by
          simp only [call, unflattenHandle, if_pos some, create, Bool.not_false, if_true]
          exact ⟨rfl, emptied_empty _⟩
        refine ⟨fun _ _ absent => absurd absent Bool.false_ne_true, fun _ _ => Or.inr ?_⟩
        refine ⟨failed.2, ?_, ?_⟩
        · rw [failed.1, onPrevious_freed]
        · rw [failed.1]
          exact fun created => absurd created (create_notMem_freed object)
    | true =>
        by_cases registered : io.registerBuffer = noError
        · have succeeded : call.status = noError := by
            simp only [call, unflattenHandle, if_pos some, create, registered, Bool.not_true,
              Bool.false_eq_true, if_false, ne_eq, not_true_eq_false]
          exact ⟨fun _ _ _ => registered, fun _ failed => absurd succeeded failed⟩
        · have failed : call.status = io.registerBuffer ∧
              call.events = object.freed ++ [.create .created, .register .created] := by
            simp only [call, unflattenHandle, if_pos some, create, registered, Bool.not_true,
              Bool.false_eq_true, if_false, ne_eq, not_false_eq_true, if_true]
            exact ⟨trivial, rfl⟩
          have created : .create .created ∈ call.events := by
            rw [failed.2]
            exact List.mem_append_right _ List.mem_cons_self
          have unclosed : .close .created ∉ call.events := by
            rw [failed.2]
            unfold GraphicBuffer.freed
            split
            · cases object.mOwner <;> decide
            · decide
          refine ⟨fun clean => ?_, fun condition => absurd (condition some rfl) registered⟩
          rcases clean (failed.1 ▸ registered) with ⟨_, none⟩ | emptied
          · rw [none] at created
            exact absurd created List.not_mem_nil
          · exact absurd (emptied.discarded created).1 unclosed
  · have succeeded : call.status = noError := by
      simp only [call, unflattenHandle, if_neg some]
    exact ⟨fun _ data => absurd data some, fun _ failed => absurd succeeded failed⟩

/-! ## The whole call -/

variable {io memory object cursor}

/-- A failure that leaves the object alone is clean when its reads are. -/
theorem unflattenClean_unchanged {status : Int} {words : List Nat} :
    UnflattenClean object cursor ⟨status, object, cursor, words, [], []⟩ ↔
      ∀ index ∈ words, (index + 1) * 4 ≤ cursor.size :=
  ⟨fun clean => clean.words, fun words =>
    ⟨words, fun _ absent => absurd absent List.not_mem_nil, fun _ => Or.inl ⟨rfl, rfl⟩⟩⟩

/-- The words of the counts lie behind the eight words that have been checked. -/
theorem counts_inside : (∀ index ∈ [0, 8, 9], (index + 1) * 4 ≤ cursor.size) ↔
    10 * 4 ≤ cursor.size := by
  simp only [List.forall_mem_cons]
  constructor
  · exact fun inside => inside.2.2.1
  · intro enough
    exact ⟨by omega, by omega, enough, fun _ absent => absurd absent List.not_mem_nil⟩

/-- Nothing is given back when there are too many descriptors or ints. -/
theorem unflattenClean_tooLarge (header : HasHeader memory cursor)
    (large : TooLarge memory cursor) :
    UnflattenClean object cursor (unflatten io memory object cursor) ↔
      10 * 4 ≤ cursor.size ∧ (object.handle.isSome → object.mOwner = .ownNone) := by
  rw [unflatten_tooLarge header large]
  have failed : badValue ≠ noError := by decide
  constructor
  · intro clean
    refine ⟨counts_inside.mp clean.words, fun owned => ?_⟩
    rcases clean.failed failed with ⟨same, _⟩ | emptied
    · have none : object.handle = none := (congrArg GraphicBuffer.handle same).symm
      rw [none] at owned
      exact absurd owned Bool.false_ne_true
    · have released : [] = object.freed := emptied.released
      rw [GraphicBuffer.freed, if_pos owned] at released
      cases owner : object.mOwner with
      | ownNone => rfl
      | ownHandle =>
          rw [owner] at released
          cases released
      | ownData =>
          rw [owner] at released
          cases released
  · rintro ⟨inside, unowned⟩
    have nothing : object.freed = [] := by
      unfold GraphicBuffer.freed
      split
      next owned =>
        rw [unowned owned]
        rfl
      next => rfl
    refine ⟨counts_inside.mpr inside, fun _ absent => absurd absent List.not_mem_nil, fun _ => ?_⟩
    exact Or.inr ⟨emptied_empty object, nothing.symm,
      fun absent => absurd absent List.not_mem_nil⟩

theorem unflattenClean_enough (header : HasHeader memory cursor)
    (few : ¬ TooLarge memory cursor) (enough : Enough memory cursor) :
    UnflattenClean object cursor (unflatten io memory object cursor) ↔
      (headerFds memory cursor ≠ 0 ∨ headerInts memory cursor ≠ 0 → io.nativeHandleCreate →
        io.registerBuffer = noError) := by
  rw [unflatten_enough header few enough]
  obtain ⟨words, fds⟩ := unflattenHandle_reads io memory object cursor (headerFds memory cursor)
    (headerInts memory cursor)
  refine Iff.trans ?_ (unflattenHandle_failed_iff io memory object cursor _ _)
  refine ⟨fun clean => clean.failed, fun failed => ⟨?_, ?_, failed⟩⟩
  · intro index member
    have counted := words index member
    have size := enough.size
    omega
  · exact fun index member => Nat.lt_of_lt_of_le (fds index member) enough.count

/-- A call is clean unless the counts lie behind the buffer, an owned handle is dropped for
counts that are too large, or `registerBuffer` refuses the handle. -/
theorem unflattenClean_iff (io : UnflattenIo) (memory : Memory) (object : GraphicBuffer)
    (cursor : Cursor) :
    UnflattenClean object cursor (unflatten io memory object cursor) ↔
      (HasHeader memory cursor →
        10 * 4 ≤ cursor.size ∧
        (TooLarge memory cursor → object.handle.isSome → object.mOwner = .ownNone) ∧
        (¬ TooLarge memory cursor → Enough memory cursor →
          headerFds memory cursor ≠ 0 ∨ headerInts memory cursor ≠ 0 → io.nativeHandleCreate →
            io.registerBuffer = noError)) := by
  by_cases header : HasHeader memory cursor
  · by_cases large : TooLarge memory cursor
    · rw [unflattenClean_tooLarge header large]
      exact ⟨fun clean _ => ⟨clean.1, fun _ => clean.2, fun few => absurd large few⟩,
        fun condition => ⟨(condition header).1, (condition header).2.1 large⟩⟩
    · by_cases enough : Enough memory cursor
      · have inside : 10 * 4 ≤ cursor.size := by
          have size := enough.size
          omega
        rw [unflattenClean_enough header large enough]
        exact ⟨fun clean _ => ⟨inside, fun absent => absurd absent large, fun _ _ => clean⟩,
          fun condition => (condition header).2.2 large enough⟩
      · rw [unflatten_tooLittle header large enough, unflattenClean_unchanged, counts_inside]
        exact ⟨fun inside _ => ⟨inside, fun absent => absurd absent large,
          fun _ present => absurd present enough⟩, fun condition => (condition header).1⟩
  · obtain ⟨status, words, failed, inside⟩ := unflatten_headerless header
    rw [failed, unflattenClean_unchanged]
    exact ⟨fun _ present => absurd present header, fun _ => inside⟩

/-- A buffer of eight words that starts with `'GBFR'`. -/
def eightWords : Memory where
  words place := if place = 0 then gbfr else 0#32
  fds _ := 0#32

/-- The two counts are read behind the eight words. -/
theorem unflattenClean_eightWords :
    let object : GraphicBuffer := ⟨0#32, 0#32, 0#32, 0#32, 0#32, none, .ownData, none, 1#64⟩
    let cursor : Cursor := ⟨0, 32, 0, 0⟩
    ¬ UnflattenClean object cursor (unflatten ⟨true, noError⟩ eightWords object cursor) := by
  intro object cursor clean
  have read : 9 ∈ (unflatten ⟨true, noError⟩ eightWords object cursor).words := by decide
  have inside : (9 + 1) * 4 ≤ 32 := clean.words 9 read
  exact absurd inside (by decide)

end T00F.Graphics
