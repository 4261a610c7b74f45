import T00F.Graphics.Mapper
import T00F.Graphics.Unflatten

/-!
# The life of a buffer

A `GraphicBuffer` from its constructor to its destructor, through any calls of its functions, with
the log of what happens to its handles and to the fences that it is handed. `Ledger` is the
invariant, with a lemma for each thing that a function can do to it; `lifecycle_iff` says that
nothing is used after its release or released twice, and when everything is released in the end.
-/

namespace T00F.Graphics

open Systems

/-! ## Allocation -/

/-- `INVALID_OPERATION` -/
def invalidOperation : Int := -38

/-- What the device returns. A device that fails leaves the handle alone. -/
structure AllocIo where
  err : Int
  handle : NativeHandle
  outStride : Word
deriving DecidableEq, Repr

/-- What `initSize` and `reallocate` leave, and what they have done to handles. -/
structure Allocation where
  status : Int
  object : GraphicBuffer
  events : List HandleEvent
deriving DecidableEq, Repr

namespace GraphicBuffer

/-- `initSize`. The stride is stored in any case. -/
def initSize (io : AllocIo) (object : GraphicBuffer) (w h format reqUsage : Word) : Allocation :=
  if io.err = noError then
    { status := noError
      object :=
        { object with
          handle := some io.handle
          stride := io.outStride
          width := w
          height := h
          format := format
          usage := reqUsage }
      events := [.create .created] }
  else ⟨io.err, { object with stride := io.outStride }, []⟩

def reallocate (io : AllocIo) (object : GraphicBuffer) (w h f reqUsage : Word) : Allocation :=
  if object.mOwner ≠ .ownData then ⟨invalidOperation, object, []⟩
  else if object.handle.isSome ∧ w = object.width ∧ h = object.height ∧ f = object.format ∧
      reqUsage = object.usage then ⟨noError, object, []⟩
  else if object.handle.isSome then
    let allocation := initSize io { object with handle := none } w h f reqUsage
    { allocation with events := .free .previous :: allocation.events }
  else initSize io object w h f reqUsage

/-! ### Constructors -/

/-- `GraphicBuffer()` -/
def new (mId : BitVec 64) : GraphicBuffer :=
  ⟨0#32, 0#32, 0#32, 0#32, 0#32, none, .ownData, none, mId⟩

/-- `GraphicBuffer(w, h, reqFormat, reqUsage)`, with `mInitCheck` -/
def ofSize (io : AllocIo) (w h reqFormat reqUsage : Word) (mId : BitVec 64) :
    Int × GraphicBuffer :=
  let allocation := initSize io (new mId) w h reqFormat reqUsage
  (allocation.status, allocation.object)

/-- `GraphicBuffer(w, h, inFormat, inUsage, inStride, inHandle, keepOwnership)` -/
def ofHandle (w h inFormat inUsage inStride : Word) (inHandle : Option NativeHandle)
    (keepOwnership : Bool) (mId : BitVec 64) : GraphicBuffer where
  width := w
  height := h
  stride := inStride
  format := inFormat
  usage := inUsage
  handle := inHandle
  mOwner := if keepOwnership then .ownHandle else .ownNone
  mWrappedBuffer := none
  mId := mId

/-- `GraphicBuffer(buffer, keepOwnership)`, where the buffer is known by a number -/
def ofBuffer (buffer : GraphicBuffer) (number : Nat) (keepOwnership : Bool) (mId : BitVec 64) :
    GraphicBuffer :=
  { buffer with
    mOwner := if keepOwnership then .ownHandle else .ownNone
    mWrappedBuffer := some number
    mId := mId }

end GraphicBuffer

/-- The constructors, with what they are handed. -/
inductive Construction where
  | new
  | ofSize (io : AllocIo) (w h reqFormat reqUsage : Word)
  | ofHandle (w h inFormat inUsage inStride : Word) (inHandle : Option NativeHandle)
      (keepOwnership : Bool)
  | ofBuffer (buffer : GraphicBuffer) (number : Nat) (keepOwnership : Bool)

namespace Construction

/-- What the constructor leaves. -/
def object (mId : BitVec 64) : Construction → GraphicBuffer
  | new => .new mId
  | ofSize io w h reqFormat reqUsage => (GraphicBuffer.ofSize io w h reqFormat reqUsage mId).2
  | ofHandle w h inFormat inUsage inStride inHandle keepOwnership =>
      .ofHandle w h inFormat inUsage inStride inHandle keepOwnership mId
  | ofBuffer buffer number keepOwnership => .ofBuffer buffer number keepOwnership mId

/-- The constructor gets a handle that the buffer has to give back: one that it has allocated, or
one that is handed over for good. -/
def acquires : Construction → Bool
  | new => false
  | ofSize io _ _ _ _ => io.err = noError
  | ofHandle _ _ _ _ _ inHandle keepOwnership => keepOwnership && inHandle.isSome
  | ofBuffer buffer _ keepOwnership => keepOwnership && buffer.handle.isSome

end Construction

/-! ## Sessions -/

/-- A buffer and the log of its handles and fences. The handles are numbered as they come, and
`current` is the number of the one that the buffer has. -/
structure Session where
  object : GraphicBuffer
  current : Nat
  next : Nat
  fences : Nat
  log : List (Use Resource)

/-- The calls, with the outcomes of what they call. -/
inductive Operation where
  | reallocate (io : AllocIo) (w h f reqUsage : Word)
  | flatten (cursor : Cursor) (memory : Memory)
  | unflatten (io : UnflattenIo) (memory : Memory) (cursor : Cursor)
  | lock (rect : Rect) (returned : Int)
  | lockYCbCr (rect : Rect) (returned : Int)
  | unlock (returned : Int)
  | lockAsync (rect : Rect) (fenceFd returned : Int)
  | lockAsyncYCbCr (rect : Rect) (fenceFd returned : Int)
  | unlockAsync (fenceFd returned : Int)

namespace Session

/-- The handle that the buffer has to give back. -/
def owned (session : Session) : Option Nat :=
  if session.object.handle.isSome ∧ session.object.mOwner ≠ .ownNone then some session.current
  else none

def number (session : Session) : HandleRef → Nat
  | .previous => session.current
  | .created => session.next

/-- The entry of the log for an event. -/
def use (session : Session) : HandleEvent → Use Resource
  | .create handle => .acquire (.handle (session.number handle))
  | .register handle | .unregister handle | .close handle =>
      .touch (.handle (session.number handle))
  | .delete handle | .free handle => .release (.handle (session.number handle))

/-- A call that changes the buffer. -/
def changed (session : Session) (object : GraphicBuffer) (events : List HandleEvent) : Session where
  object := object
  current := if .create .created ∈ events then session.next else session.current
  next := session.next + 1
  fences := session.fences
  log := session.log ++ events.map session.use

/-- A call that uses the handle. -/
def used (session : Session) (uses : List (Use Resource)) : Session :=
  { session with log := session.log ++ uses }

/-- A call that is handed a fence, unless its descriptor is negative. -/
def handed (session : Session) (fenceFd : Int) (uses : List (Use Resource)) : Session :=
  { session with
    fences := session.fences + 1
    log := session.log ++ (onFence fenceFd [.acquire (.fence session.fences)] ++ uses) }

/-- One call. -/
def perform (mAllocMod : GrallocModule) (session : Session) : Operation → Session
  | .reallocate io w h f reqUsage =>
      let call := session.object.reallocate io w h f reqUsage
      session.changed call.object call.events
  | .flatten _ _ => session.used (onHandle session.owned)
  | .unflatten io memory cursor =>
      let call := T00F.Graphics.unflatten io memory session.object cursor
      session.changed call.object call.events
  | .lock rect returned => session.used (session.object.lock returned session.owned rect).2
  | .lockYCbCr rect returned =>
      session.used (session.object.lockYCbCr mAllocMod returned session.owned rect).2
  | .unlock returned => session.used (GraphicBufferMapper.lock returned session.owned).2
  | .lockAsync rect fenceFd returned =>
      session.handed fenceFd (session.object.lockAsync mAllocMod returned session.owned rect
        session.fences fenceFd).2
  | .lockAsyncYCbCr rect fenceFd returned =>
      session.handed fenceFd (session.object.lockAsyncYCbCr mAllocMod returned session.owned rect
        session.fences fenceFd).2
  | .unlockAsync fenceFd returned =>
      session.used (GraphicBufferMapper.unlockAsync mAllocMod returned session.owned fenceFd).2

def run (mAllocMod : GrallocModule) (session : Session) (operations : List Operation) : Session :=
  operations.foldl (perform mAllocMod) session

/-- The log when the destructor returns. -/
def destroyed (session : Session) : List (Use Resource) :=
  session.log ++ session.object.freed.map session.use

/-- A buffer that a constructor leaves: what it owns it has got. -/
def start (object : GraphicBuffer) : Session where
  object := object
  current := 0
  next := 1
  fences := 0
  log := if object.handle.isSome ∧ object.mOwner ≠ .ownNone then [.acquire (.handle 0)] else []

end Session

/-- The log of a session starts with just what the constructor has got. -/
theorem start_construction (construction : Construction) (mId : BitVec 64) :
    (Session.start (construction.object mId)).log =
      if construction.acquires then [.acquire (.handle 0)] else [] := by
  cases construction with
  | new => rfl
  | ofSize io w h reqFormat reqUsage =>
      by_cases allocated : io.err = noError
      · simp [Construction.object, Construction.acquires, GraphicBuffer.ofSize,
          GraphicBuffer.initSize, GraphicBuffer.new, Session.start, allocated]
      · simp [Construction.object, Construction.acquires, GraphicBuffer.ofSize,
          GraphicBuffer.initSize, GraphicBuffer.new, Session.start, allocated]
  | ofHandle w h inFormat inUsage inStride inHandle keepOwnership =>
      cases keepOwnership <;> cases inHandle <;> rfl
  | ofBuffer buffer number keepOwnership =>
      cases keepOwnership <;>
        simp [Construction.object, Construction.acquires, GraphicBuffer.ofBuffer, Session.start]

/-! ## The ledger -/

/-- What the log has come to: `held` is to be given back, and what is in `lost` never will be. -/
structure Ledger (held : Option Nat) (next fences : Nat) (log : List (Use Resource))
    (lives : Resource → Life) (lost : List Resource) : Prop where
  replay : replay (fun _ => .fresh) log = some lives
  live : ∀ resource, lives resource = .live ↔ resource ∈ held.map .handle ∨ resource ∈ lost
  apart : ∀ generation ∈ held, .handle generation ∉ lost
  handles : ∀ generation, next ≤ generation → lives (.handle generation) = .fresh
  fences : ∀ number, fences ≤ number → lives (.fence number) = .fresh

namespace Ledger

variable {held : Option Nat} {next fences : Nat} {log : List (Use Resource)}
  {lives : Resource → Life} {lost : List Resource}

/-- The handles held are alive. -/
theorem held_live (ledger : Ledger held next fences log lives lost) :
    ∀ generation ∈ held, lives (.handle generation) = .live := by
  intro generation member
  exact (ledger.live _).mpr (.inl (Option.mem_map_of_mem _ member))

/-- What uses do not change the stages. -/
theorem uses (ledger : Ledger held next fences log lives lost) {uses : List (Use Resource)}
    (replayed : Systems.replay lives uses = some lives) :
    Ledger held next fences (log ++ uses) lives lost where
  replay := by rw [replay_append, ledger.replay, Option.bind_some, replayed]
  live := ledger.live
  apart := ledger.apart
  handles := ledger.handles
  fences := ledger.fences

/-- A ledger is one for every later generation. -/
theorem later (ledger : Ledger held next fences log lives lost) {more : Nat} (bound : next ≤ more) :
    Ledger held more fences log lives lost :=
  { ledger with handles := fun generation above => ledger.handles generation (bound.trans above) }

/-- A handle that is released, after some uses. -/
theorem release {generation : Nat} (ledger : Ledger (some generation) next fences log lives lost)
    {uses : List (Use Resource)} (replayed : Systems.replay lives uses =
      some (Function.update lives (.handle generation) .released)) :
    Ledger none next fences (log ++ uses) (Function.update lives (.handle generation) .released)
      lost where
  replay := by rw [replay_append, ledger.replay, Option.bind_some, replayed]
  live resource := by
    by_cases same : resource = .handle generation
    · subst same
      rw [Function.update_self]
      simpa using ledger.apart generation rfl
    · rw [Function.update_of_ne same, ledger.live]
      simp [Ne.symm same]
  apart _ member := by cases member
  handles other above := by
    have different : other ≠ generation := by
      rintro rfl
      cases (ledger.handles other above).symm.trans (ledger.held_live other rfl)
    rw [Function.update_of_ne (by simpa using different)]
    exact ledger.handles other above
  fences number above := by
    rw [Function.update_of_ne (by rintro ⟨⟩)]
    exact ledger.fences number above

/-- A handle that is forgotten. -/
theorem lose {generation : Nat} (ledger : Ledger (some generation) next fences log lives lost) :
    Ledger none next fences log lives (.handle generation :: lost) where
  replay := ledger.replay
  live resource := by
    rw [ledger.live]
    simp [eq_comm]
  apart _ member := by cases member
  handles := ledger.handles
  fences := ledger.fences

/-- A new handle, and some uses of it. -/
theorem acquire (ledger : Ledger none next fences log lives lost) {uses : List (Use Resource)}
    (replayed : Systems.replay lives uses =
      some (Function.update lives (.handle next) .live)) :
    Ledger (some next) (next + 1) fences (log ++ uses)
      (Function.update lives (.handle next) .live) lost where
  replay := by rw [replay_append, ledger.replay, Option.bind_some, replayed]
  live resource := by
    by_cases same : resource = .handle next
    · subst same
      simp
    · rw [Function.update_of_ne same, ledger.live]
      simp [Ne.symm same]
  apart generation member := by
    cases member
    intro gone
    cases (ledger.handles next le_rfl).symm.trans ((ledger.live _).mpr (.inr gone))
  handles other above := by
    rw [Function.update_of_ne (by rintro ⟨⟩; omega)]
    exact ledger.handles other (by omega)
  fences number above := by
    rw [Function.update_of_ne (by rintro ⟨⟩)]
    exact ledger.fences number above

/-- A ledger is one for every later fence. -/
theorem laterFence (ledger : Ledger held next fences log lives lost) :
    Ledger held next (fences + 1) log lives lost :=
  { ledger with fences := fun number above => ledger.fences number (by omega) }

/-- A fence that is handed over and stays. -/
theorem kept (ledger : Ledger held next fences log lives lost) :
    Ledger held next (fences + 1) (log ++ [.acquire (.fence fences)])
      (Function.update lives (.fence fences) .live) (.fence fences :: lost) where
  replay := by
    rw [replay_append, ledger.replay, Option.bind_some, replay_cons, Use.apply,
      if_pos (ledger.fences fences le_rfl)]
    rfl
  live resource := by
    by_cases same : resource = .fence fences
    · subst same
      simp
    · rw [Function.update_of_ne same, ledger.live]
      simp [same]
  apart generation member := by
    simpa using ledger.apart generation member
  handles generation above := by
    rw [Function.update_of_ne (by rintro ⟨⟩)]
    exact ledger.handles generation above
  fences number above := by
    rw [Function.update_of_ne (by rintro ⟨⟩; omega)]
    exact ledger.fences number (by omega)

/-- A fence that was handed over last and is given away. -/
theorem given {number : Nat} (ledger : Ledger held next fences log lives (.fence number :: lost))
    (once : .fence number ∉ lost) {uses : List (Use Resource)}
    (replayed : Systems.replay lives uses =
      some (Function.update lives (.fence number) .released)) :
    Ledger held next fences (log ++ uses) (Function.update lives (.fence number) .released)
      lost where
  replay := by rw [replay_append, ledger.replay, Option.bind_some, replayed]
  live resource := by
    by_cases same : resource = .fence number
    · subst same
      rw [Function.update_self]
      simpa using once
    · rw [Function.update_of_ne same, ledger.live]
      simp [same]
  apart generation member gone := ledger.apart generation member (List.mem_cons_of_mem _ gone)
  handles generation above := by
    rw [Function.update_of_ne (by rintro ⟨⟩)]
    exact ledger.handles generation above
  fences other above := by
    have different : other ≠ number := by
      rintro rfl
      have live := (ledger.live _).mpr (.inr List.mem_cons_self)
      cases (ledger.fences other above).symm.trans live
    rw [Function.update_of_ne (by simpa using different)]
    exact ledger.fences other above

end Ledger

/-! ## One call -/

/-- The call does not forget a resource. -/
def Session.Careful (session : Session) : Operation → Prop
  | .unflatten io memory cursor => HasHeader memory cursor →
      (TooLarge memory cursor → session.owned = none) ∧
      (¬ TooLarge memory cursor → Enough memory cursor →
        headerFds memory cursor ≠ 0 ∨ headerInts memory cursor ≠ 0 →
          io.nativeHandleCreate = true → io.registerBuffer = noError)
  | .lockAsync rect fenceFd _ | .lockAsyncYCbCr rect fenceFd _ =>
      session.object.Outside rect → fenceFd < 0
  | _ => True

/-- To lock the whole buffer forgets no fence. -/
theorem careful_lockBounds (session : Session) (fenceFd returned : Int) :
    session.Careful (.lockAsync session.object.lockBounds fenceFd returned) ∧
      session.Careful (.lockAsyncYCbCr session.object.lockBounds fenceFd returned) :=
  ⟨fun outside => absurd outside session.object.lockBounds_inside,
    fun outside => absurd outside session.object.lockBounds_inside⟩

/-- The invariant of a session. -/
def Session.Accounts (session : Session) (lives : Resource → Life) (lost : List Resource) : Prop :=
  Ledger session.owned session.next session.fences session.log lives lost

variable {session : Session} {lives : Resource → Life} {lost : List Resource}

/-- What `free_handle` releases. -/
theorem replay_freed (accounts : session.Accounts lives lost) :
    ∃ lives, Ledger none session.next session.fences
      (session.log ++ session.object.freed.map session.use) lives lost := by
  unfold Session.Accounts at accounts
  cases owned : session.owned with
  | none =>
      have nothing : session.object.freed = [] := by
        unfold Session.owned at owned
        unfold GraphicBuffer.freed
        split at owned
        · cases owned
        next unowned =>
          split
          next handle =>
            rw [not_and_not_right.mp unowned handle]
            rfl
          next => rfl
      rw [nothing, List.map_nil, List.append_nil]
      rw [owned] at accounts
      exact ⟨lives, accounts⟩
  | some generation =>
      unfold Session.owned at owned
      split at owned
      next owns =>
        cases owned
        rw [Session.owned, if_pos owns] at accounts
        refine ⟨_, accounts.release ?_⟩
        have live := accounts.held_live _ rfl
        rw [GraphicBuffer.freed, if_pos owns.1]
        cases owner : session.object.mOwner with
        | ownNone => exact absurd owner owns.2
        | ownHandle | ownData =>
            simp [Owner.release, Session.use, Session.number, replay, Use.apply, live]
      next => cases owned

/-- Uses that leave all lives keep the account. -/
theorem Session.Accounts.used (accounts : session.Accounts lives lost)
    {uses : List (Use Resource)} (replayed : replay lives uses = some lives) :
    (session.used uses).Accounts lives lost :=
  Ledger.uses accounts replayed

/-- A call with a fence. -/
theorem Session.Accounts.handed (accounts : session.Accounts lives lost) (fenceFd : Int)
    (rect : Rect) {call : Int × List (Use Resource)}
    (replayed : ∀ lives, (∀ generation ∈ session.owned, lives (.handle generation) = .live) →
      (0 ≤ fenceFd → lives (.fence session.fences) = .live) →
      replay lives call.2 = some (withoutFence lives session.fences fenceFd)) :
    ∃ lives after,
      (session.handed fenceFd (session.object.checked rect call).2).Accounts lives after ∧
      (after = [] ↔ lost = [] ∧ (session.object.Outside rect → fenceFd < 0)) := by
  unfold Session.Accounts at accounts ⊢
  by_cases present : 0 ≤ fenceFd
  · have new : .fence session.fences ∉ lost := by
      intro gone
      cases (accounts.fences _ le_rfl).symm.trans ((accounts.live _).mpr (.inr gone))
    have kept := accounts.kept
    have handed : (session.handed fenceFd (session.object.checked rect call).2).log =
        session.log ++ [.acquire (.fence session.fences)] ++
          (session.object.checked rect call).2 := by
      rw [Session.handed, onFence, if_pos present, List.append_assoc]
    by_cases outside : session.object.Outside rect
    · refine ⟨Function.update lives (.fence session.fences) .live, .fence session.fences :: lost,
        ?_, ?_⟩
      · rw [handed, GraphicBuffer.checked, if_pos outside, List.append_nil]
        exact kept
      · simp only [reduceCtorEq, false_iff, not_and]
        exact fun _ negative => absurd (negative outside) (not_lt.mpr present)
    · have given := replayed _ kept.held_live fun _ => Function.update_self _ _ _
      rw [withoutFence, if_pos present] at given
      have ledger := kept.given new given
      rw [GraphicBuffer.checked, if_neg outside] at handed ⊢
      rw [handed]
      exact ⟨_, lost, ledger, (and_iff_left (absurd · outside)).symm⟩
  · have negative := not_le.mp present
    refine ⟨lives, lost, ?_, (and_iff_left fun _ => negative).symm⟩
    have handed : (session.handed fenceFd (session.object.checked rect call).2).log =
        session.log ++ (session.object.checked rect call).2 := by
      rw [Session.handed, onFence, if_neg present, List.nil_append]
    rw [handed]
    refine accounts.laterFence.uses ?_
    unfold GraphicBuffer.checked
    split
    · rfl
    · rw [replayed lives accounts.held_live fun also => absurd also present, withoutFence,
        if_neg present]

/-- A call that changes nothing. -/
theorem Session.Accounts.same (accounts : session.Accounts lives lost) :
    (session.changed session.object []).Accounts lives lost := by
  have ledger := Ledger.later accounts (Nat.le_succ session.next)
  rw [← List.append_nil session.log] at ledger
  exact ledger

/-- A call that frees what the buffer owns and leaves it with no handle. -/
theorem Session.Accounts.freed (accounts : session.Accounts lives lost) {object : GraphicBuffer}
    (empty : object.handle = none) :
    ∃ lives, (session.changed object session.object.freed).Accounts lives lost := by
  obtain ⟨after, ledger⟩ := replay_freed accounts
  refine ⟨after, ?_⟩
  have owned : (session.changed object session.object.freed).owned = none := by
    simp [Session.owned, Session.changed, empty]
  unfold Session.Accounts
  rw [owned]
  exact ledger.later (Nat.le_succ session.next)

/-- A call that empties the buffer without freeing what it owns. -/
theorem Session.Accounts.forgets (accounts : session.Accounts lives lost) :
    ∃ lives after, (session.changed session.object.emptied []).Accounts lives after ∧
      (after = [] ↔ lost = [] ∧ session.owned = none) := by
  have owned : (session.changed session.object.emptied []).owned = none := by
    simp [Session.owned, Session.changed, GraphicBuffer.emptied]
  have ledger := Ledger.later accounts (Nat.le_succ session.next)
  rw [← List.append_nil session.log] at ledger
  unfold Session.Accounts
  rw [owned]
  cases held : session.owned with
  | none =>
      rw [held] at ledger
      exact ⟨_, _, ledger, by simp⟩
  | some generation =>
      rw [held] at ledger
      exact ⟨_, _, ledger.lose, by simp⟩

/-- A call that then gets a new handle, which the buffer has or forgets. -/
theorem Session.Accounts.created (accounts : session.Accounts lives lost) {object : GraphicBuffer}
    (owner : object.mOwner ≠ .ownNone) {registered : List HandleEvent}
    (registers : registered = [] ∨ registered = [.register .created]) :
    ∃ lives after, (session.changed object
        (session.object.freed ++ .create .created :: registered)).Accounts lives after ∧
      (after = [] ↔ lost = [] ∧ object.handle.isSome) := by
  obtain ⟨middle, ledger⟩ := replay_freed accounts
  have fresh := ledger.handles session.next le_rfl
  have replayed : replay middle ((.create .created :: registered).map session.use) =
      some (Function.update middle (.handle session.next) .live) := by
    rcases registers with rfl | rfl
    · simp [Session.use, Session.number, replay, Use.apply, fresh]
    · simp [Session.use, Session.number, replay, Use.apply, fresh]
  have acquired := ledger.acquire replayed
  rw [List.append_assoc, ← List.map_append] at acquired
  unfold Session.Accounts
  cases handle : object.handle with
  | none =>
      have owned : (session.changed object
          (session.object.freed ++ .create .created :: registered)).owned = none := by
        simp [Session.owned, Session.changed, handle]
      rw [owned]
      exact ⟨_, _, acquired.lose, by simp⟩
  | some value =>
      have owned : (session.changed object
          (session.object.freed ++ .create .created :: registered)).owned = some session.next := by
        simp [Session.owned, Session.changed, handle, owner]
      rw [owned]
      exact ⟨_, _, acquired, by simp⟩

/-- `reallocate` changes nothing, or frees the handle and asks for another one. -/
theorem reallocate_cases (io : AllocIo) (object : GraphicBuffer) (w h f reqUsage : Word) :
    ((object.reallocate io w h f reqUsage).object = object ∧
        (object.reallocate io w h f reqUsage).events = []) ∨
      ((object.reallocate io w h f reqUsage).object.handle = none ∧
        (object.reallocate io w h f reqUsage).events = object.freed) ∨
      ((object.reallocate io w h f reqUsage).object.handle.isSome ∧
        (object.reallocate io w h f reqUsage).object.mOwner ≠ .ownNone ∧
        (object.reallocate io w h f reqUsage).events = object.freed ++ [.create .created]) := by
  unfold GraphicBuffer.reallocate
  split
  next => exact .inl ⟨rfl, rfl⟩
  next owner =>
    rw [ne_eq, not_not] at owner
    split
    next => exact .inl ⟨rfl, rfl⟩
    next =>
      right
      split
      next handle =>
        have freed : object.freed = [.free .previous] := by
          rw [GraphicBuffer.freed, if_pos handle, owner]
          rfl
        rw [freed]
        unfold GraphicBuffer.initSize
        split
        next => exact .inr ⟨rfl, by simp [owner], rfl⟩
        next => exact .inl ⟨rfl, rfl⟩
      next handle =>
        have freed : object.freed = [] := if_neg handle
        rw [freed]
        unfold GraphicBuffer.initSize
        split
        next => exact .inr ⟨rfl, by simp [owner], rfl⟩
        next => exact .inl ⟨by simpa using handle, rfl⟩

/-- A reallocation keeps the account and loses nothing. -/
theorem reallocate_accounts (accounts : session.Accounts lives lost) (io : AllocIo)
    (w h f reqUsage : Word) :
    ∃ lives after, (session.changed (session.object.reallocate io w h f reqUsage).object
        (session.object.reallocate io w h f reqUsage).events).Accounts lives after ∧
      (after = [] ↔ lost = []) := by
  rcases reallocate_cases io session.object w h f reqUsage with
    ⟨object, events⟩ | ⟨empty, events⟩ | ⟨full, owner, events⟩
  · rw [object, events]
    exact ⟨lives, lost, accounts.same, Iff.rfl⟩
  · rw [events]
    obtain ⟨after, freed⟩ := accounts.freed empty
    exact ⟨after, lost, freed, Iff.rfl⟩
  · rw [events]
    obtain ⟨final, after, created, forgotten⟩ := accounts.created owner (.inl rfl)
    exact ⟨final, after, created, forgotten.trans (and_iff_left full)⟩

/-- What the rest of `unflatten` does with the handles. -/
theorem unflattenHandle_cases (io : UnflattenIo) (memory : Memory) (object : GraphicBuffer)
    (cursor : Cursor) (numFds numInts : Nat) :
    let call := unflattenHandle io memory object cursor numFds numInts
    (call.object.handle = none ∧ call.events = object.freed ∧
        (numFds ≠ 0 ∨ numInts ≠ 0 → io.nativeHandleCreate = false)) ∨
      (call.object.mOwner ≠ .ownNone ∧
        call.events = object.freed ++ [.create .created, .register .created] ∧
        (numFds ≠ 0 ∨ numInts ≠ 0) ∧ io.nativeHandleCreate = true ∧
        (call.object.handle.isSome ↔ io.registerBuffer = noError)) := by
  unfold unflattenHandle
  dsimp only
  split
  next some =>
    split
    next failed => exact .inl ⟨rfl, rfl, fun _ => by simpa using failed⟩
    next created =>
      have created : io.nativeHandleCreate = true := by simpa using created
      right
      split
      next refused =>
        refine ⟨by simp [GraphicBuffer.emptied], rfl, some, created, ?_⟩
        simp [GraphicBuffer.emptied, refused]
      next registered =>
        refine ⟨by simp, rfl, some, created, ?_⟩
        simpa using registered
  next nothing => exact .inl ⟨rfl, rfl, fun some => absurd some nothing⟩

/-- An unflattening keeps the account, and loses nothing exactly when it is careful. -/
theorem unflatten_accounts (accounts : session.Accounts lives lost) (io : UnflattenIo)
    (memory : Memory) (cursor : Cursor) :
    ∃ lives after, (session.changed (unflatten io memory session.object cursor).object
        (unflatten io memory session.object cursor).events).Accounts lives after ∧
      (after = [] ↔ lost = [] ∧ session.Careful (.unflatten io memory cursor)) := by
  by_cases header : HasHeader memory cursor
  · by_cases large : TooLarge memory cursor
    · rw [unflatten_tooLarge header large]
      have forgets : session.Careful (.unflatten io memory cursor) ↔ session.owned = none :=
        ⟨fun careful => (careful header).1 large,
          fun none _ => ⟨fun _ => none, fun few => absurd large few⟩⟩
      rw [forgets]
      exact accounts.forgets
    · by_cases enough : Enough memory cursor
      · rw [unflatten_enough header large enough]
        have careful : session.Careful (.unflatten io memory cursor) ↔
            (headerFds memory cursor ≠ 0 ∨ headerInts memory cursor ≠ 0 →
              io.nativeHandleCreate = true → io.registerBuffer = noError) :=
          ⟨fun careful => (careful header).2 large enough,
            fun registers _ => ⟨fun also => absurd also large, fun _ _ => registers⟩⟩
        rw [careful]
        rcases unflattenHandle_cases io memory session.object cursor (headerFds memory cursor)
          (headerInts memory cursor) with ⟨empty, events, refused⟩ |
            ⟨owner, events, some, created, registered⟩
        · rw [events]
          obtain ⟨after, freed⟩ := accounts.freed empty
          refine ⟨after, lost, freed, (and_iff_left fun some created => ?_).symm⟩
          rw [refused some] at created
          cases created
        · rw [events]
          obtain ⟨final, after, gets, forgotten⟩ := accounts.created owner (.inr rfl)
          refine ⟨final, after, gets, forgotten.trans (and_congr_right fun _ => ?_)⟩
          rw [registered]
          exact ⟨fun success _ _ => success, fun success => success some created⟩
      · rw [unflatten_tooLittle header large enough]
        refine ⟨lives, lost, accounts.same, (and_iff_left fun _ => ?_).symm⟩
        exact ⟨fun also => absurd also large, fun _ also => absurd also enough⟩
  · obtain ⟨status, words, same, -⟩ :=
      @unflatten_headerless io _ session.object _ header
    rw [same]
    exact ⟨lives, lost, accounts.same, (and_iff_left (absurd · header)).symm⟩

/-- What each call makes of the ledger. -/
theorem Session.Accounts.perform (accounts : session.Accounts lives lost)
    (mAllocMod : GrallocModule) (operation : Operation) :
    ∃ lives after, (session.perform mAllocMod operation).Accounts lives after ∧
      (after = [] ↔ lost = [] ∧ session.Careful operation) := by
  have touched : replay lives (onHandle session.owned) = some lives :=
    replay_onHandle (Ledger.held_live accounts)
  cases operation with
  | reallocate io w h f reqUsage =>
      obtain ⟨final, after, accounts, forgotten⟩ :=
        reallocate_accounts accounts io w h f reqUsage
      exact ⟨final, after, accounts, forgotten.trans (and_iff_left trivial).symm⟩
  | flatten cursor memory =>
      exact ⟨lives, lost, accounts.used touched, (and_iff_left trivial).symm⟩
  | unflatten io memory cursor => exact unflatten_accounts accounts io memory cursor
  | lock rect returned =>
      refine ⟨lives, lost, accounts.used ?_, (and_iff_left trivial).symm⟩
      unfold GraphicBuffer.lock GraphicBuffer.checked
      split
      · rfl
      · exact touched
  | lockYCbCr rect returned =>
      refine ⟨lives, lost, accounts.used ?_, (and_iff_left trivial).symm⟩
      unfold GraphicBuffer.lockYCbCr GraphicBuffer.checked GraphicBufferMapper.lockYCbCr
      split
      · rfl
      · split
        · rfl
        · exact touched
  | unlock returned => exact ⟨lives, lost, accounts.used touched, (and_iff_left trivial).symm⟩
  | lockAsync rect fenceFd returned =>
      exact accounts.handed fenceFd rect fun _ => lockAsync_replay mAllocMod returned
  | lockAsyncYCbCr rect fenceFd returned =>
      exact accounts.handed fenceFd rect fun _ => lockAsyncYCbCr_replay mAllocMod returned
  | unlockAsync fenceFd returned =>
      refine ⟨lives, lost, accounts.used ?_, (and_iff_left trivial).symm⟩
      unfold GraphicBufferMapper.unlockAsync
      split
      · exact touched
      · exact touched

/-! ## Whole lives -/

/-- No call forgets a resource. -/
def Session.AllCareful (mAllocMod : GrallocModule) : Session → List Operation → Prop
  | _, [] => True
  | session, operation :: operations =>
      session.Careful operation ∧
        AllCareful mAllocMod (session.perform mAllocMod operation) operations

/-- A run keeps the account, and loses nothing exactly when every step is careful. -/
theorem run_accounts (accounts : session.Accounts lives lost) (mAllocMod : GrallocModule)
    (operations : List Operation) :
    ∃ lives after, (session.run mAllocMod operations).Accounts lives after ∧
      (after = [] ↔ lost = [] ∧ session.AllCareful mAllocMod operations) := by
  induction operations generalizing session lives lost with
  | nil => exact ⟨lives, lost, accounts, (and_iff_left trivial).symm⟩
  | cons operation operations ih =>
      obtain ⟨middle, between, first, forgotten⟩ := accounts.perform mAllocMod operation
      obtain ⟨final, after, rest, all⟩ := ih first
      refine ⟨final, after, rest, ?_⟩
      rw [all, forgotten, and_assoc]
      rfl

/-- A new object is accounted for. -/
theorem start_accounts (object : GraphicBuffer) :
    ∃ lives, (Session.start object).Accounts lives [] := by
  have empty : Ledger none 0 0 [] (fun _ => .fresh) [] := ⟨rfl, by simp, by simp, by simp, by simp⟩
  by_cases owns : object.handle.isSome ∧ object.mOwner ≠ .ownNone
  · have acquired := @Ledger.acquire _ _ _ _ _ empty [.acquire (.handle 0)] rfl
    have owned : (Session.start object).owned = some 0 := if_pos owns
    have log : (Session.start object).log = [.acquire (.handle 0)] := if_pos owns
    unfold Session.Accounts
    rw [owned, log]
    exact ⟨_, acquired⟩
  · have owned : (Session.start object).owned = none := if_neg owns
    have log : (Session.start object).log = [] := if_neg owns
    unfold Session.Accounts
    rw [owned, log]
    exact ⟨_, empty.later (Nat.zero_le 1)⟩

/-- Whatever the constructor and the calls between it and the destructor, no handle and no fence is
used before it is there or after it was released, or released twice; and everything is released in
the end if and only if no call forgets something: `unflatten` with a header that asks for too much
or with a buffer that cannot be registered, and a locking function with a fence and a rectangle that
is not in the buffer. -/
theorem lifecycle_iff (mAllocMod : GrallocModule) (object : GraphicBuffer)
    (operations : List Operation) :
    ∃ lives, replay (fun _ => .fresh)
        ((Session.start object).run mAllocMod operations).destroyed = some lives ∧
      ((∀ resource, lives resource ≠ .live) ↔
        (Session.start object).AllCareful mAllocMod operations) := by
  obtain ⟨begun, accounts⟩ := start_accounts object
  obtain ⟨_, lost, accounts, all⟩ := run_accounts accounts mAllocMod operations
  obtain ⟨final, ledger⟩ := replay_freed accounts
  have nothing := all.trans (and_iff_right rfl)
  refine ⟨final, ledger.replay, ?_⟩
  rw [← nothing, List.eq_nil_iff_forall_not_mem]
  simp only [ne_eq, ledger.live, Option.map_none, Option.not_mem_none, false_or]

end T00F.Graphics
