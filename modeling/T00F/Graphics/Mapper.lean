import T00F.Graphics.GraphicBuffer
import T00F.Systems.Lifecycle

/-!
# Locking a buffer

`GraphicBufferMapper` and the functions of `GraphicBuffer` in front of it, with what each does to
the handle and to the fence that it is given. A call returns what the gralloc module returns,
which is a parameter. `lockAsync_replay` says that a fence that gets to the mapper is given away
exactly once, whatever the module offers.
-/

namespace T00F.Graphics

open Systems

/-- What a buffer gets and has to give back: its handles, numbered as they come, and the fences
that it is handed. -/
inductive Resource where
  | handle (generation : Nat)
  | fence (number : Nat)
deriving DecidableEq, Repr

/-- `gralloc_module_t`: its version and whether its optional functions are there. -/
structure GrallocModule where
  moduleApiVersion : Nat
  lockYcbcr : Bool
  lockAsyncYcbcr : Bool
deriving DecidableEq, Repr

/-- `GRALLOC_MODULE_API_VERSION_0_3` -/
def grallocModuleApiVersion03 : Nat := 3

/-- `-EINVAL` -/
def einval : Int := -22

/-- What is done to a fence, if there is one. -/
def onFence (fenceFd : Int) (uses : List (Use Resource)) : List (Use Resource) :=
  if 0 ≤ fenceFd then uses else []

/-- What the module does to a handle that the buffer has to give back, if it has one. -/
def onHandle (handle : Option Nat) : List (Use Resource) :=
  handle.toList.map fun generation => .touch (.handle generation)

namespace GraphicBufferMapper

variable (mAllocMod : GrallocModule) (returned : Int) (handle : Option Nat) (fence : Nat)
  (fenceFd : Int)

/-- `lock`, and likewise `unlock` -/
def lock : Int × List (Use Resource) := (returned, onHandle handle)

def lockYCbCr : Int × List (Use Resource) :=
  if !mAllocMod.lockYcbcr then (einval, []) else (returned, onHandle handle)

/-- A module of version 0.3 takes the fence over. -/
def lockAsync : Int × List (Use Resource) :=
  if grallocModuleApiVersion03 ≤ mAllocMod.moduleApiVersion then
    (returned, onHandle handle ++ onFence fenceFd [.release (.fence fence)])
  else
    (returned, onFence fenceFd [.touch (.fence fence), .release (.fence fence)] ++ onHandle handle)

def lockAsyncYCbCr : Int × List (Use Resource) :=
  if grallocModuleApiVersion03 ≤ mAllocMod.moduleApiVersion ∧ mAllocMod.lockAsyncYcbcr = true then
    (returned, onHandle handle ++ onFence fenceFd [.release (.fence fence)])
  else if mAllocMod.lockYcbcr = true then
    (returned, onFence fenceFd [.touch (.fence fence), .release (.fence fence)] ++ onHandle handle)
  else (einval, onFence fenceFd [.release (.fence fence)])

/-- `unlockAsync`. The fence that it returns is the caller's. -/
def unlockAsync : (Int × Int) × List (Use Resource) :=
  if grallocModuleApiVersion03 ≤ mAllocMod.moduleApiVersion then
    ((returned, fenceFd), onHandle handle)
  else ((returned, -1), onHandle handle)

end GraphicBufferMapper

/-! ## The checks of the buffer -/

/-- `Rect` -/
structure Rect where
  left : Int
  top : Int
  right : Int
  bottom : Int
deriving DecidableEq, Repr

namespace GraphicBuffer

/-- The rectangle is not in the buffer; width and height are compared as signed numbers. -/
def Outside (object : GraphicBuffer) (rect : Rect) : Prop :=
  rect.left < 0 ∨ rect.right > object.width.toInt ∨ rect.top < 0 ∨
    rect.bottom > object.height.toInt

instance (object : GraphicBuffer) (rect : Rect) : Decidable (object.Outside rect) := by
  unfold Outside
  infer_instance

/-- `lockBounds` -/
def lockBounds (object : GraphicBuffer) : Rect := ⟨0, 0, object.width.toInt, object.height.toInt⟩

/-- The functions of the buffer that check the rectangle before they call the mapper. -/
def checked (object : GraphicBuffer) (rect : Rect) (call : Int × List (Use Resource)) :
    Int × List (Use Resource) :=
  if object.Outside rect then (badValue, []) else call

variable (object : GraphicBuffer) (mAllocMod : GrallocModule) (returned : Int)
  (handle : Option Nat) (rect : Rect) (fence : Nat) (fenceFd : Int)

def lock : Int × List (Use Resource) :=
  object.checked rect (GraphicBufferMapper.lock returned handle)

def lockYCbCr : Int × List (Use Resource) :=
  object.checked rect (GraphicBufferMapper.lockYCbCr mAllocMod returned handle)

def lockAsync : Int × List (Use Resource) :=
  object.checked rect (GraphicBufferMapper.lockAsync mAllocMod returned handle fence fenceFd)

def lockAsyncYCbCr : Int × List (Use Resource) :=
  object.checked rect (GraphicBufferMapper.lockAsyncYCbCr mAllocMod returned handle fence fenceFd)

/-- The default rectangle is the whole buffer. -/
theorem lockBounds_inside : ¬ object.Outside object.lockBounds := by
  unfold Outside lockBounds
  dsimp only
  omega

end GraphicBuffer

/-! ## The fences -/

section Replay

variable {lives : Resource → Life} {handle : Option Nat} {fence : Nat} {fenceFd : Int}

/-- The uses of a handle that is live. -/
theorem replay_onHandle (live : ∀ generation ∈ handle, lives (.handle generation) = .live) :
    replay lives (onHandle handle) = some lives := by
  cases handle with
  | none => rfl
  | some generation =>
      rw [onHandle, Option.toList_some, List.map_singleton, replay_cons, Use.apply,
        if_pos (live generation rfl)]
      rfl

/-- What giving the fence away leaves, if there is one. -/
def withoutFence (lives : Resource → Life) (fence : Nat) (fenceFd : Int) : Resource → Life :=
  if 0 ≤ fenceFd then Function.update lives (.fence fence) .released else lives

/-- A fence that is handed on is released once, if there is one. -/
theorem replay_given (live : 0 ≤ fenceFd → lives (.fence fence) = .live) :
    replay lives (onFence fenceFd [.release (.fence fence)]) =
      some (withoutFence lives fence fenceFd) := by
  unfold onFence withoutFence
  split
  next present => rw [replay_cons, Use.apply, if_pos (live present)]; rfl
  next => rfl

/-- A fence that is waited on and closed is released once, if there is one. -/
theorem replay_waited (live : 0 ≤ fenceFd → lives (.fence fence) = .live) :
    replay lives (onFence fenceFd [.touch (.fence fence), .release (.fence fence)]) =
      some (withoutFence lives fence fenceFd) := by
  unfold onFence withoutFence
  split
  next present =>
    rw [replay_cons, Use.apply, if_pos (live present), Option.bind_some, replay_cons, Use.apply,
      if_pos (live present)]
    rfl
  next => rfl

/-- Releasing the fence leaves the handles. -/
theorem withoutFence_handle (generation : Nat) :
    withoutFence lives fence fenceFd (.handle generation) = lives (.handle generation) := by
  unfold withoutFence
  split
  · exact Function.update_of_ne (by rintro ⟨⟩) _ _
  · rfl

/-- Whatever the module offers, a fence is given away once, and not touched afterwards. -/
theorem lockAsync_replay (mAllocMod : GrallocModule) (returned : Int)
    (live : ∀ generation ∈ handle, lives (.handle generation) = .live)
    (present : 0 ≤ fenceFd → lives (.fence fence) = .live) :
    replay lives (GraphicBufferMapper.lockAsync mAllocMod returned handle fence fenceFd).2 =
      some (withoutFence lives fence fenceFd) := by
  have after : ∀ generation ∈ handle,
      withoutFence lives fence fenceFd (.handle generation) = .live := fun generation member =>
    (withoutFence_handle generation).trans (live generation member)
  unfold GraphicBufferMapper.lockAsync
  split
  · rw [replay_append, replay_onHandle live]
    exact replay_given present
  · rw [replay_append, replay_waited present]
    exact replay_onHandle after

/-- Locking for YCbCr uses only what is alive and releases the fence once. -/
theorem lockAsyncYCbCr_replay (mAllocMod : GrallocModule) (returned : Int)
    (live : ∀ generation ∈ handle, lives (.handle generation) = .live)
    (present : 0 ≤ fenceFd → lives (.fence fence) = .live) :
    replay lives (GraphicBufferMapper.lockAsyncYCbCr mAllocMod returned handle fence fenceFd).2 =
      some (withoutFence lives fence fenceFd) := by
  have after : ∀ generation ∈ handle,
      withoutFence lives fence fenceFd (.handle generation) = .live := fun generation member =>
    (withoutFence_handle generation).trans (live generation member)
  unfold GraphicBufferMapper.lockAsyncYCbCr
  split
  · rw [replay_append, replay_onHandle live]
    exact replay_given present
  · split
    · rw [replay_append, replay_waited present]
      exact replay_onHandle after
    · exact replay_given present

end Replay

end T00F.Graphics
