import T00F.Systems.Mirror
import T00F.Systems.Transition
import T00F.Systems.Word

/-!
# The list of allocated buffers

`GraphicBufferAllocator.cpp`: any number of threads call `alloc` and `free`. Each calls the
device first and updates `sAllocList` under the lock later. `step_view` says that the list
is a copy of what is allocated, which threads bring up to date. `allocator_keys` says in
which runs the copy is right whenever no call is in progress, and `add_timely` that only a
removal can spoil it.
-/

namespace T00F.Graphics

open Systems

universe u v

/-- `alloc_rec_t` -/
structure AllocRec where
  w : Word
  h : Word
  s : Word
  format : Word
  usage : Word
  size : Word
deriving DecidableEq, Repr

/-- What `alloc` is called with. -/
structure AllocArguments where
  width : Word
  height : Word
  format : Word
  usage : Word
deriving DecidableEq, Repr

/-- What the allocator uses of the platform: `GRALLOC_USAGE_ALLOC_MASK` and
`bytesPerPixel`. -/
structure Gralloc where
  usageAllocMask : Word
  bytesPerPixel : Word → Word

/-- A 1x1 buffer in place of one without width or height, and the usage bits that the
device sees. -/
def AllocArguments.adjusted (gralloc : Gralloc) (arguments : AllocArguments) : AllocArguments :=
  let degenerate := arguments.width = 0#32 ∨ arguments.height = 0#32
  { width := if degenerate then 1#32 else arguments.width
    height := if degenerate then 1#32 else arguments.height
    format := arguments.format
    usage := arguments.usage &&& gralloc.usageAllocMask }

/-- `rec` -/
def AllocArguments.allocRec (gralloc : Gralloc) (arguments : AllocArguments) (stride : Word) :
    AllocRec where
  w := arguments.width
  h := arguments.height
  s := stride
  format := arguments.format
  usage := arguments.usage
  size := arguments.height * stride * gralloc.bytesPerPixel arguments.format

/-- Where a thread is: about to call the device, or about to update `sAllocList`. -/
inductive Call (Handle : Type v) where
  | idle
  | alloc (arguments : AllocArguments)
  | add (handle : Handle) (record : AllocRec)
  | free (handle : Handle)
  | removeItem (handle : Handle)

/-- The handles that the device has given out, `sAllocList`, and the threads. -/
structure Allocator (Thread : Type u) (Handle : Type v) where
  allocated : Handle → Bool
  sAllocList : Handle → Option AllocRec
  calls : Thread → Call Handle

/-- The steps of a thread: the start of a call, the device call with its outcome, and the
locked section. -/
inductive Action (Thread : Type u) (Handle : Type v) where
  | callAlloc (thread : Thread) (arguments : AllocArguments)
  | alloc (thread : Thread) (handle : Handle) (stride : Word)
  | allocFails (thread : Thread)
  | add (thread : Thread) (handle : Handle)
  | callFree (thread : Thread) (handle : Handle)
  | free (thread : Thread) (handle : Handle)
  | freeFails (thread : Thread)
  | removeItem (thread : Thread) (handle : Handle)

namespace Allocator

variable {Thread : Type u} {Handle : Type v} [DecidableEq Thread] [DecidableEq Handle]

def setCall (state : Allocator Thread Handle) (thread : Thread) (call : Call Handle) :
    Allocator Thread Handle :=
  { state with calls := Function.update state.calls thread call }

def setAllocated (state : Allocator Thread Handle) (handle : Handle) (present : Bool) :
    Allocator Thread Handle :=
  { state with allocated := Function.update state.allocated handle present }

def setRecord (state : Allocator Thread Handle) (handle : Handle) (record : Option AllocRec) :
    Allocator Thread Handle :=
  { state with sAllocList := Function.update state.sAllocList handle record }

/-- The steps of the threads. The device gives out any handle that is not allocated, and
frees any that is. -/
inductive Step (gralloc : Gralloc) :
    Allocator Thread Handle → Action Thread Handle → Allocator Thread Handle → Prop where
  | callAlloc {state thread arguments} : state.calls thread = .idle →
      Step gralloc state (.callAlloc thread arguments)
        (state.setCall thread (.alloc (arguments.adjusted gralloc)))
  | alloc {state thread arguments handle stride} : state.calls thread = .alloc arguments →
      state.allocated handle = false →
      Step gralloc state (.alloc thread handle stride)
        ((state.setAllocated handle true).setCall thread
          (.add handle (arguments.allocRec gralloc stride)))
  | allocFails {state thread arguments} : state.calls thread = .alloc arguments →
      Step gralloc state (.allocFails thread) (state.setCall thread .idle)
  | add {state thread handle record} : state.calls thread = .add handle record →
      Step gralloc state (.add thread handle)
        ((state.setRecord handle (some record)).setCall thread .idle)
  | callFree {state thread handle} : state.calls thread = .idle →
      Step gralloc state (.callFree thread handle) (state.setCall thread (.free handle))
  | free {state thread handle} : state.calls thread = .free handle →
      state.allocated handle = true →
      Step gralloc state (.free thread handle)
        ((state.setAllocated handle false).setCall thread (.removeItem handle))
  | freeFails {state thread handle} : state.calls thread = .free handle →
      Step gralloc state (.freeFails thread) (state.setCall thread .idle)
  | removeItem {state thread handle} : state.calls thread = .removeItem handle →
      Step gralloc state (.removeItem thread handle)
        ((state.setRecord handle none).setCall thread .idle)

end Allocator

/-! ## The list as a copy -/

/-- The update of `sAllocList` that a call has still to make. -/
def Call.pending {Handle : Type v} : Call Handle → Option (Handle × Bool)
  | .add handle _ => some (handle, true)
  | .removeItem handle => some (handle, false)
  | _ => none

namespace Allocator

variable {Thread : Type u} {Handle : Type v}

/-- The keys of `sAllocList` as a copy of the allocated handles. -/
def view (state : Allocator Thread Handle) : Mirror Thread Handle where
  actual := state.allocated
  copy handle := (state.sAllocList handle).isSome
  pending thread := (state.calls thread).pending

/-- No call is in progress. -/
def Quiescent (state : Allocator Thread Handle) : Prop := ∀ thread, state.calls thread = .idle

/-- A record is added only while its handle is allocated, and removed only while it is not,
unless the opposite update is still to come. -/
def Timely (state : Allocator Thread Handle) : Action Thread Handle → Prop
  | .add _ handle => state.view.InTime handle true
  | .removeItem _ handle => state.view.InTime handle false
  | _ => True

/-- What a call still has to do is read off the call. -/
theorem view_pending {state : Allocator Thread Handle} {thread : Thread} {call : Call Handle}
    (here : state.calls thread = call) : state.view.pending thread = call.pending := by
  rw [← here]
  rfl

section Records

variable [DecidableEq Handle]

/-- Setting a record sets whether the handle is recorded. -/
theorem copy_setRecord (state : Allocator Thread Handle) (handle : Handle)
    (record : Option AllocRec) :
    (state.setRecord handle record).view.copy =
      Function.update state.view.copy handle record.isSome := by
  funext other
  exact Function.apply_update (fun _ => Option.isSome) state.sAllocList handle record other

end Records

variable [DecidableEq Thread] {state next : Allocator Thread Handle}

/-- Moving one thread changes only what it has pending. -/
theorem view_setCall (state : Allocator Thread Handle) (thread : Thread) (call : Call Handle) :
    (state.setCall thread call).view =
      { state.view with
        pending := Function.update state.view.pending thread call.pending } := by
  have pending : (state.setCall thread call).view.pending =
      Function.update state.view.pending thread call.pending := by
    funext other
    exact Function.apply_update (fun _ => Call.pending) state.calls thread call other
  rw [← pending]
  rfl

/-- A call that neither has an update to make nor gets one changes nothing to the view. -/
theorem view_setCall_same {thread : Thread} {call : Call Handle}
    (same : call.pending = (state.calls thread).pending) :
    (state.setCall thread call).view = state.view := by
  rw [view_setCall, same]
  have pending : Function.update state.view.pending thread (state.calls thread).pending =
      state.view.pending := Function.update_eq_self thread state.view.pending
  rw [pending]

/-- After one thread moved, a call found is its new one or an old one. -/
theorem setCall_cases {thread other : Thread} {call found : Call Handle}
    (here : (state.setCall thread call).calls other = found) :
    call = found ∨ state.calls other = found := by
  unfold setCall at here
  dsimp only at here
  by_cases same : other = thread
  · rw [same, Function.update_self] at here
    exact Or.inl here
  · rw [Function.update_of_ne same] at here
    exact Or.inr here

variable [DecidableEq Handle]

/-- A step leaves the view alone, changes what is allocated, or updates the copy. -/
theorem step_view {gralloc : Gralloc} {action : Action Thread Handle}
    (step : Step gralloc state action next) :
    (Timely state action ∧ next.view = state.view) ∨
    (Timely state action ∧ ∃ thread handle present, state.view.pending thread = none ∧
      next.view = state.view.change thread handle present) ∨
    (∃ thread handle present, state.view.pending thread = some (handle, present) ∧
      (Timely state action ↔ state.view.InTime handle present) ∧
      next.view = state.view.update thread handle present) := by
  cases step with
  | @callAlloc thread _ idle =>
      exact Or.inl ⟨trivial, view_setCall_same (by rw [idle]; rfl)⟩
  | @alloc thread arguments handle stride here _ =>
      refine Or.inr (Or.inl ⟨trivial, thread, handle, true, view_pending here, ?_⟩)
      rw [view_setCall]
      rfl
  | allocFails here =>
      exact Or.inl ⟨trivial, view_setCall_same (by rw [here]; rfl)⟩
  | @add thread handle record here =>
      refine Or.inr (Or.inr ⟨thread, handle, true, view_pending here, Iff.rfl, ?_⟩)
      rw [view_setCall, Mirror.update, ← @Option.isSome_some _ record, ← copy_setRecord]
      rfl
  | callFree idle =>
      exact Or.inl ⟨trivial, view_setCall_same (by rw [idle]; rfl)⟩
  | @free thread handle here _ =>
      refine Or.inr (Or.inl ⟨trivial, thread, handle, false, view_pending here, ?_⟩)
      rw [view_setCall]
      rfl
  | freeFails here =>
      exact Or.inl ⟨trivial, view_setCall_same (by rw [here]; rfl)⟩
  | @removeItem thread handle here =>
      refine Or.inr (Or.inr ⟨thread, handle, false, view_pending here, Iff.rfl, ?_⟩)
      rw [view_setCall, Mirror.update, ← @Option.isSome_none AllocRec, ← copy_setRecord]
      rfl

/-- A step from a settled state settles exactly when it is timely. -/
theorem settled_step_iff {gralloc : Gralloc} {action : Action Thread Handle}
    (settled : state.view.Settled) (step : Step gralloc state action next) :
    next.view.Settled ↔ Timely state action := by
  rcases step_view step with ⟨timely, same⟩ | ⟨timely, thread, handle, present, idle, changed⟩ |
    ⟨thread, handle, present, pending, timely, updated⟩
  · rw [same]
    exact ⟨fun _ => timely, fun _ => settled⟩
  · rw [changed]
    exact ⟨fun _ => timely, fun _ => settled.change idle⟩
  · rw [updated, timely]
    exact Mirror.settled_update_iff settled pending

/-- No handle is allocated, the list is empty, and no call is in progress. -/
def initial : Allocator Thread Handle := ⟨fun _ => false, fun _ => none, fun _ => .idle⟩

end Allocator

/-! ## Runs -/

section Runs

open Allocator

variable {Thread : Type u} {Handle : Type v} [DecidableEq Thread] [DecidableEq Handle]

/-- The runs of the threads in which each step is allowed where it is taken. -/
def allocator (gralloc : Gralloc)
    (Allowed : Allocator Thread Handle → Action Thread Handle → Prop) :
    TransitionSystem (Allocator Thread Handle) :=
  .ofActions (· = initial) (Step gralloc) Allowed

/-- In runs whose updates are timely, every difference of the list is about to be
corrected. -/
theorem reachable_settled {gralloc : Gralloc} {state : Allocator Thread Handle}
    (reachable : (allocator gralloc Timely).Reachable state) : state.view.Settled := by
  apply TransitionSystem.invariant _ _ reachable
  · rintro _ rfl handle
    exact Or.inl rfl
  · rintro _ _ settled ⟨action, timely, step⟩
    exact (settled_step_iff settled step).mpr timely

/-- In runs whose updates are timely, the keys of `sAllocList` are the allocated handles
whenever no call is in progress. The first update that is not timely leaves a key that is
wrong, and no call that will correct it. -/
theorem allocator_keys (gralloc : Gralloc) :
    (∀ state : Allocator Thread Handle, (allocator gralloc Timely).Reachable state →
      state.Quiescent →
        ∀ handle, (state.sAllocList handle).isSome ↔ state.allocated handle = true) ∧
    ∀ (state next : Allocator Thread Handle) (action : Action Thread Handle),
      (allocator gralloc Timely).Reachable state → Step gralloc state action next →
        ¬ Timely state action →
          ∃ handle, (next.sAllocList handle).isSome ≠ next.allocated handle ∧
            ∀ thread, (next.calls thread).pending ≠ some (handle, next.allocated handle) := by
  constructor
  · intro state reachable quiescent handle
    have idle : ∀ thread, state.view.pending thread = none :=
      fun thread => view_pending (quiescent thread)
    have same := (reachable_settled reachable).copy_eq idle handle
    exact iff_of_eq (congrArg (· = true) same)
  · intro state next action reachable step late
    have unsettled : ¬ next.view.Settled := fun settled =>
      late ((settled_step_iff (reachable_settled reachable) step).mp settled)
    simp only [Mirror.Settled, not_forall, not_or, not_exists] at unsettled
    exact unsettled

/-- A thread frees a handle whose record another thread removes only after the device has
given the handle out again and it has been recorded. -/
theorem allocator_reused :
    ¬ ∀ state : Allocator Bool Nat,
      (allocator ⟨0xFFFFFFFF#32, fun _ => 4#32⟩ fun _ _ => True).Reachable state →
        state.Quiescent →
          ∀ handle, (state.sAllocList handle).isSome ↔ state.allocated handle = true := by
  intro keys
  have start : (allocator ⟨0xFFFFFFFF#32, fun _ => 4#32⟩ fun _ _ => True).Reachable
      (initial : Allocator Bool Nat) := .initial rfl
  have arguments : AllocArguments := ⟨1#32, 1#32, 1#32, 0#32⟩
  have called := start.step ⟨_, trivial, @Step.callAlloc _ _ _ _ _ _ false arguments rfl⟩
  have given := called.step ⟨_, trivial, @Step.alloc _ _ _ _ _ _ false _ 7 1#32 rfl rfl⟩
  have added := given.step ⟨_, trivial, @Step.add _ _ _ _ _ _ false _ _ rfl⟩
  have freeing := added.step ⟨_, trivial, @Step.callFree _ _ _ _ _ _ false 7 rfl⟩
  have freed := freeing.step ⟨_, trivial, @Step.free _ _ _ _ _ _ false _ rfl rfl⟩
  -- The other thread gets the same handle and records it.
  have calledAgain := freed.step ⟨_, trivial, @Step.callAlloc _ _ _ _ _ _ true arguments rfl⟩
  have givenAgain := calledAgain.step
    ⟨_, trivial, @Step.alloc _ _ _ _ _ _ true _ 7 1#32 rfl rfl⟩
  have addedAgain := givenAgain.step ⟨_, trivial, @Step.add _ _ _ _ _ _ true _ _ rfl⟩
  have removed := addedAgain.step ⟨_, trivial, @Step.removeItem _ _ _ _ _ _ false _ rfl⟩
  have recorded := (keys _ removed (by rintro (_ | _) <;> rfl) 7).mpr rfl
  cases recorded

/-- The device frees only handles that `alloc` has returned. -/
def Returned (state : Allocator Thread Handle) : Action Thread Handle → Prop
  | .free _ handle => ∀ thread record, state.calls thread ≠ .add handle record
  | _ => True

/-- A handle whose record is still to be added is allocated. -/
theorem add_allocated {gralloc : Gralloc} {state : Allocator Thread Handle}
    (reachable : (allocator gralloc Returned).Reachable state) :
    ∀ thread handle record, state.calls thread = .add handle record →
      state.allocated handle = true := by
  apply TransitionSystem.invariant _ _ reachable
  · rintro _ rfl thread handle record adding
    cases adding
  · rintro state _ allocated ⟨action, returned, step⟩ other handle record adding
    cases step with
    | callAlloc _ =>
        have here := (setCall_cases adding).resolve_left (by rintro ⟨⟩)
        exact allocated other handle record here
    | @alloc _ _ given _ _ _ =>
        by_cases same : handle = given
        · rw [same]
          exact Function.update_self _ _ _
        · refine (Function.update_of_ne same _ _).trans ?_
          obtain here | here := setCall_cases adding
          · cases here
            exact absurd rfl same
          · exact allocated other handle record here
    | allocFails _ =>
        have here := (setCall_cases adding).resolve_left (by rintro ⟨⟩)
        exact allocated other handle record here
    | add _ =>
        have here := (setCall_cases adding).resolve_left (by rintro ⟨⟩)
        exact allocated other handle record here
    | callFree _ =>
        have here := (setCall_cases adding).resolve_left (by rintro ⟨⟩)
        exact allocated other handle record here
    | @free _ freed _ _ =>
        have here := (setCall_cases adding).resolve_left (by rintro ⟨⟩)
        have others : handle ≠ freed := by
          rintro rfl
          exact returned other record here
        exact (Function.update_of_ne others _ _).trans (allocated other handle record here)
    | freeFails _ =>
        have here := (setCall_cases adding).resolve_left (by rintro ⟨⟩)
        exact allocated other handle record here
    | removeItem _ =>
        have here := (setCall_cases adding).resolve_left (by rintro ⟨⟩)
        exact allocated other handle record here

/-- When the device frees only handles that `alloc` has returned, records are always added
in time: only a removal can come too late. -/
theorem add_timely {gralloc : Gralloc} {state next : Allocator Thread Handle}
    (reachable : (allocator gralloc Returned).Reachable state) {thread : Thread} {handle : Handle}
    (step : Step gralloc state (.add thread handle) next) : Timely state (.add thread handle) := by
  cases step with
  | add here => exact Or.inl (add_allocated reachable thread handle _ here)

end Runs

end T00F.Graphics
