import T00F.Systems.Word

/-!
# The lights module

`lights.c`: three lights share the two-colour LED, and the first lit one in the order
attention, notification, battery is shown. All writes succeed, so that every call
returns 0. `setLights_settled` says what the nodes of the LED hold after any calls.
-/

namespace T00F.Lights

open Systems

/-- The members of `struct light_state_t` that the module reads. -/
structure LightState where
  color : Word
  flashMode : Int
  flashOnMS : Int
  flashOffMS : Int
deriving DecidableEq, Repr

/-- The nodes `LCD_FILE` to `RED_BLINK_FILE`. -/
inductive Node where
  | lcd
  | greenLed
  | redLed
  | greenBlink
  | redBlink
deriving DecidableEq, Repr

/-- The numbers in the last line written to each node. -/
abbrev Nodes := Node → List Int

/-- `write_int` -/
def writeInt (path : Node) (value : Int) (nodes : Nodes) : Nodes :=
  Function.update nodes path [value]

/-- `write_blink` -/
def writeBlink (path : Node) (value onMs offMs : Int) (nodes : Nodes) : Nodes :=
  Function.update nodes path [value, onMs, offMs]

/-- `LED_LIGHT_OFF` -/
def ledLightOff : Int := 0

/-- `LIGHT_FLASH_TIMED` -/
def lightFlashTimed : Int := 1

/-- `LIGHT_FLASH_HARDWARE` -/
def lightFlashHardware : Int := 2

/-- `is_lit` -/
def isLit (state : LightState) : Prop := state.color &&& 0x00ffffff#32 ≠ 0#32

instance (state : LightState) : Decidable (isLit state) :=
  inferInstanceAs (Decidable (_ ≠ _))

namespace LightState

/-- The local `blink` of `set_light_locked`. -/
def blink (state : LightState) : Bool :=
  state.flashMode == lightFlashTimed || state.flashMode == lightFlashHardware

/-- The local `blue`. -/
def blue (state : LightState) : Int := (state.color &&& 0xFF#32).toNat

/-- The local `red`, which a blue part replaces. -/
def red (state : LightState) : Int :=
  if state.blue ≠ 0 then state.blue else ((state.color >>> 16) &&& 0xFF#32).toNat

/-- The local `green`, which a blue part replaces. -/
def green (state : LightState) : Int :=
  if state.blue ≠ 0 then state.blue else ((state.color >>> 8) &&& 0xFF#32).toNat

end LightState

/-- `set_light_locked` -/
def setLightLocked (state : LightState) (nodes : Nodes) : Nodes :=
  if state.blink then
    let nodes := writeInt .redLed ledLightOff nodes
    let nodes := writeInt .greenLed ledLightOff nodes
    let nodes := writeBlink .redBlink (if state.red ≠ 0 then 1 else 0)
      state.flashOnMS state.flashOffMS nodes
    writeBlink .greenBlink (if state.green ≠ 0 then 1 else 0)
      state.flashOnMS state.flashOffMS nodes
  else
    let nodes := writeInt .redBlink 0 nodes
    let nodes := writeInt .greenBlink 0 nodes
    let nodes := writeInt .redLed ledLightOff nodes
    let nodes := writeInt .greenLed ledLightOff nodes
    let nodes := writeInt .redLed state.red nodes
    writeInt .greenLed state.green nodes

/-- The indices of `g_lights`. -/
inductive Slot where
  | attention
  | notification
  | battery
deriving DecidableEq, Repr

/-- The array `g_lights` and the nodes. -/
structure Hal where
  gLights : Slot → LightState
  nodes : Nodes

/-- `handle_led_prioritized_locked` -/
def handleLedPrioritizedLocked (state : LightState) (hal : Hal) : Hal :=
  if isLit (hal.gLights .attention) then
    { hal with nodes := setLightLocked (hal.gLights .attention) hal.nodes }
  else if isLit (hal.gLights .notification) then
    { hal with nodes := setLightLocked (hal.gLights .notification) hal.nodes }
  else if isLit (hal.gLights .battery) then
    { hal with nodes := setLightLocked (hal.gLights .battery) hal.nodes }
  else
    { hal with nodes := setLightLocked state hal.nodes }

/-- What `set_light_notifications`, `set_light_attention` and `set_light_battery`
do for their slots. -/
def setLightSlot (slot : Slot) (state : LightState) (hal : Hal) : Hal :=
  handleLedPrioritizedLocked state { hal with gLights := Function.update hal.gLights slot state }

/-- `set_light_notifications` -/
def setLightNotifications : LightState → Hal → Hal := setLightSlot .notification

/-- `set_light_attention` -/
def setLightAttention : LightState → Hal → Hal := setLightSlot .attention

/-- `set_light_battery` -/
def setLightBattery : LightState → Hal → Hal := setLightSlot .battery

/-- `set_light_backlight`, which refuses only a null device. -/
def setLightBacklight (state : LightState) (hal : Hal) : Hal :=
  { hal with nodes := writeInt .lcd (state.color &&& 0xff#32).toNat hal.nodes }

/-- `set_light_noop` -/
def setLightNoop (_state : LightState) (hal : Hal) : Hal := hal

/-- The lights that `open_lights` knows, under their ids. -/
inductive Light where
  | backlight
  | notifications
  | attention
  | battery
  | buttons
deriving DecidableEq, Repr

/-- The member `set_light` that `open_lights` chooses. -/
def setLight : Light → LightState → Hal → Hal
  | .backlight => setLightBacklight
  | .notifications => setLightNotifications
  | .attention => setLightAttention
  | .battery => setLightBattery
  | .buttons => setLightNoop

/-- The calls of a run in order. -/
def setLights (calls : List (Light × LightState)) (hal : Hal) : Hal :=
  calls.foldl (fun hal call => setLight call.1 call.2 hal) hal

/-! ## What the LED shows -/

/-- The part of `g_lights` that counts: the first lit slot in order of priority. -/
def firstLit (gLights : Slot → LightState) : Option LightState :=
  ([Slot.attention, Slot.notification, Slot.battery].map gLights).find? (isLit ·)

/-- No node has been written to. -/
def unwritten : Nodes := fun _ => []

/-- The first lit slot is shown, and only if there is none the LED is dark. -/
structure Settled (hal : Hal) : Prop where
  shown : ∀ state, firstLit hal.gLights = some state →
    ∀ node ≠ .lcd, hal.nodes node = setLightLocked state unwritten node
  dark : firstLit hal.gLights = none →
    hal.nodes .redLed = [0] ∧ hal.nodes .greenLed = [0] ∧
      (hal.nodes .redBlink).head? = some 0 ∧ (hal.nodes .greenBlink).head? = some 0
  shining : (∃ slot, isLit (hal.gLights slot)) →
    ∃ node ≠ .lcd, ∃ value ≠ 0, (hal.nodes node).head? = some value

/-- The mask of `is_lit` covers the three channels. -/
theorem isLit_iff {state : LightState} : isLit state ↔ state.red ≠ 0 ∨ state.green ≠ 0 := by
  have masked : (state.color &&& 0x00ffffff#32).toNat = state.color.toNat % 2 ^ 24 := by
    rw [BitVec.toNat_and]
    exact Nat.and_two_pow_sub_one_eq_mod state.color.toNat 24
  have low : ∀ word : Word, (word &&& 0xFF#32).toNat = word.toNat % 2 ^ 8 := by
    intro word
    rw [BitVec.toNat_and]
    exact Nat.and_two_pow_sub_one_eq_mod word.toNat 8
  rw [isLit, ← BitVec.toNat_inj.ne, masked, LightState.red, LightState.green, LightState.blue]
  simp only [low, BitVec.toNat_ushiftRight, Nat.shiftRight_eq_div_pow]
  split <;> simp <;> omega

/-- The nodes of the LED do not depend on what was there before. -/
theorem setLightLocked_node (state : LightState) (nodes : Nodes) {node : Node}
    (led : node ≠ .lcd) :
    setLightLocked state nodes node = setLightLocked state unwritten node := by
  unfold setLightLocked
  cases state.blink <;> cases node <;> first | contradiction | rfl

/-- A state that is not lit turns the LED off, whatever its flash mode. -/
theorem setLightLocked_dark {state : LightState} (dark : ¬ isLit state) (nodes : Nodes) :
    setLightLocked state nodes .redLed = [0] ∧ setLightLocked state nodes .greenLed = [0] ∧
      (setLightLocked state nodes .redBlink).head? = some 0 ∧
      (setLightLocked state nodes .greenBlink).head? = some 0 := by
  rw [isLit_iff, not_or, not_not, not_not] at dark
  obtain ⟨red, green⟩ := dark
  unfold setLightLocked
  rw [red, green]
  cases state.blink <;> exact ⟨rfl, rfl, rfl, rfl⟩

/-- A lit state turns a LED on or makes it blink. -/
theorem setLightLocked_shining {state : LightState} (lit : isLit state) (nodes : Nodes) :
    ∃ node ≠ .lcd, ∃ value ≠ 0, (setLightLocked state nodes node).head? = some value := by
  unfold setLightLocked
  rcases isLit_iff.mp lit with red | green
  · cases state.blink with
    | true => exact ⟨.redBlink, nofun, 1, one_ne_zero, by simp [writeBlink, red]⟩
    | false => exact ⟨.redLed, nofun, state.red, red, rfl⟩
  · cases state.blink with
    | true => exact ⟨.greenBlink, nofun, 1, one_ne_zero, by simp [writeBlink, green]⟩
    | false => exact ⟨.greenLed, nofun, state.green, green, rfl⟩

/-! ## One call -/

/-- The LED shows the first slot that is lit, or the given state. -/
theorem handleLedPrioritizedLocked_eq (state : LightState) (hal : Hal) :
    handleLedPrioritizedLocked state hal =
      { hal with nodes := setLightLocked ((firstLit hal.gLights).getD state) hal.nodes } := by
  unfold handleLedPrioritizedLocked firstLit
  grind

/-- No slot is found exactly when none is lit. -/
theorem firstLit_eq_none {gLights : Slot → LightState} :
    firstLit gLights = none ↔ ∀ slot, ¬ isLit (gLights slot) := by
  simp only [firstLit, List.find?_eq_none, List.mem_map]
  constructor
  · intro none slot lit
    exact none _ ⟨slot, by cases slot <;> decide, rfl⟩ (decide_eq_true lit)
  · rintro none _ ⟨slot, _, rfl⟩ lit
    exact none slot (of_decide_eq_true lit)

/-- The slot found is lit. -/
theorem isLit_of_firstLit {gLights : Slot → LightState} {state : LightState}
    (first : firstLit gLights = some state) : isLit state := by
  have lit := List.find?_some first
  exact of_decide_eq_true lit

/-- A call for one of the slots settles the LED, from any state. -/
theorem setLightSlot_settled (slot : Slot) (state : LightState) (hal : Hal) :
    Settled (setLightSlot slot state hal) := by
  rw [setLightSlot, handleLedPrioritizedLocked_eq]
  generalize written : Function.update hal.gLights slot state = gLights
  constructor
  case shown =>
    intro shown first node led
    dsimp only at first ⊢
    rw [first]
    exact setLightLocked_node shown hal.nodes led
  case dark =>
    intro none
    dsimp only at none ⊢
    rw [none]
    -- the state of this call is in its slot, and no slot is lit
    have unlit := firstLit_eq_none.mp none slot
    rw [← written, Function.update_self] at unlit
    exact setLightLocked_dark unlit hal.nodes
  case shining =>
    rintro ⟨litSlot, lit⟩
    dsimp only at lit ⊢
    cases first : firstLit gLights with
    | none => exact absurd lit (firstLit_eq_none.mp first litSlot)
    | some shown => exact setLightLocked_shining (isLit_of_firstLit first) hal.nodes

/-- The slot of the lights that share the LED. -/
def Light.slot : Light → Option Slot
  | .backlight => none
  | .notifications => some .notification
  | .attention => some .attention
  | .battery => some .battery
  | .buttons => none

/-- The lights that share the LED differ only in their slot. -/
theorem setLight_of_slot {light : Light} {slot : Slot} (shared : light.slot = some slot) :
    setLight light = setLightSlot slot := by
  cases light <;> cases shared <;> rfl

/-- The other lights leave the slots and the LED alone. -/
theorem setLight_frame {light : Light} (other : light.slot = none) (state : LightState)
    (hal : Hal) : (setLight light state hal).gLights = hal.gLights ∧
      ∀ node ≠ .lcd, (setLight light state hal).nodes node = hal.nodes node := by
  cases light with
  | backlight => exact ⟨rfl, fun node led => Function.update_of_ne led _ _⟩
  | buttons => exact ⟨rfl, fun _ _ => rfl⟩
  | notifications => cases other
  | attention => cases other
  | battery => cases other

/-- Settling depends only on the slots and the LED's nodes. -/
theorem Settled.congr {hal hal' : Hal} (settled : Settled hal)
    (slots : hal'.gLights = hal.gLights) (led : ∀ node ≠ .lcd, hal'.nodes node = hal.nodes node) :
    Settled hal' where
  shown state first node other := by
    rw [led node other]
    exact settled.shown state (slots ▸ first) node other
  dark none := by
    rw [led .redLed nofun, led .greenLed nofun, led .redBlink nofun, led .greenBlink nofun]
    exact settled.dark (slots ▸ none)
  shining lit := by
    obtain ⟨node, other, value⟩ := settled.shining (slots ▸ lit)
    exact ⟨node, other, by rwa [led node other]⟩

/-! ## Runs -/

/-- Calls for other lights keep the LED settled. -/
theorem setLight_settled {hal : Hal} (settled : Settled hal) (light : Light)
    (state : LightState) : Settled (setLight light state hal) := by
  cases shared : light.slot with
  | some slot =>
      rw [setLight_of_slot shared]
      exact setLightSlot_settled slot state hal
  | none =>
      obtain ⟨slots, led⟩ := setLight_frame shared state hal
      exact settled.congr slots led

/-- Every sequence of calls keeps the LED settled. -/
theorem setLights_keep {hal : Hal} (settled : Settled hal) (calls : List (Light × LightState)) :
    Settled (setLights calls hal) := by
  induction calls generalizing hal with
  | nil => exact settled
  | cons call rest ih => exact ih (setLight_settled settled call.1 call.2)

/-- The first call for one of the three lights settles the LED. -/
theorem setLights_settle {calls : List (Light × LightState)}
    (shared : ∃ call ∈ calls, call.1.slot ≠ none) (hal : Hal) :
    Settled (setLights calls hal) := by
  induction calls generalizing hal with
  | nil => simp at shared
  | cons call rest ih =>
      cases slot : call.1.slot with
      | some slot' =>
          have settled : Settled (setLight call.1 call.2 hal) := by
            rw [setLight_of_slot slot]
            exact setLightSlot_settled slot' call.2 hal
          exact setLights_keep settled rest
      | none =>
          obtain ⟨later, member, sharedLater⟩ := shared
          rcases List.mem_cons.mp member with rfl | member
          · exact absurd slot sharedLater
          · exact ih ⟨later, member, sharedLater⟩ _

/-- After calls among which one is for the LED, its nodes hold what the first lit slot
asks for; with a lit slot they depend on the slots only. -/
theorem setLights_settled {calls : List (Light × LightState)}
    (shared : ∃ call ∈ calls, call.1.slot ≠ none) (hal : Hal) :
    Settled (setLights calls hal) ∧
      ∀ (calls' : List (Light × LightState)) (hal' : Hal),
        (∃ call ∈ calls', call.1.slot ≠ none) →
        (setLights calls' hal').gLights = (setLights calls hal).gLights →
        (∃ slot, isLit ((setLights calls hal).gLights slot)) →
        ∀ node ≠ .lcd, (setLights calls' hal').nodes node = (setLights calls hal).nodes node := by
  refine ⟨setLights_settle shared hal, ?_⟩
  rintro calls' hal' shared' same ⟨slot, lit⟩ node led
  cases first : firstLit (setLights calls hal).gLights with
  | none => exact absurd lit (firstLit_eq_none.mp first slot)
  | some state =>
      rw [(setLights_settle shared hal).shown state first node led,
        (setLights_settle shared' hal').shown state (same ▸ first) node led]

/-- A blinking attention light goes on and off again above a lit battery light. -/
def attentionFlash : List (Light × LightState) :=
  [(.battery, ⟨0xffff0000#32, 0, 0, 0⟩), (.attention, ⟨0xff0000ff#32, 1, 500, 2000⟩),
    (.attention, ⟨0xff000000#32, 1, 500, 2000⟩)]

/-- The lights before the first call. -/
def Hal.off : Hal := ⟨fun _ => ⟨0#32, 0, 0, 0⟩, unwritten⟩

theorem setLights_settled_flash : Settled (setLights attentionFlash .off) :=
  (setLights_settled (by decide) .off).1

example : (setLights attentionFlash .off).nodes .redLed = [255] := by decide

end T00F.Lights
