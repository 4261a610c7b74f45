import T00F.Systems.Transition

/-!
# Actions that properties trigger

Scripts of services and `on property:name=value` actions and the machine that runs them: it
queues an event for every property that is set, takes the events in their order and runs all
commands of the actions that match before it takes the next. Clients set properties at any
time. A command that names a service which the script does not declare fails.
`outlined_of_reachable` is the rule for what holds at every command, whatever the order in
which the actions run.
-/

namespace Systems.Triggers

/-- A value is text and the values that properties have when the command runs. -/
inductive Piece (Name : Type) where
  | text (text : String)
  | property (name : Name)

inductive Command (Path Name Service : Type) where
  | write (path : Path) (value : List (Piece Name))
  | setprop (name : Name) (value : List (Piece Name))
  | start (service : Service)
  | stop (service : Service)
  | restart (service : Service)
  | other (line : String)

/-- The value is `none` for `on property:name=*`. -/
structure Action (Path Name Service : Type) where
  name : Name
  value : Option String
  commands : List (Command Path Name Service)

/-- A property was set. -/
structure Event (Name : Type) where
  name : Name
  value : String

/-- The texts last written, the properties (empty if unset) and the services that are kept up. -/
structure State (Path Name Service : Type) where
  files : Path → String
  properties : Name → String
  started : Service → Bool

variable {Path Name Service : Type}

abbrev Actions (Path Name Service : Type) := List (Action Path Name Service)

/-- The services that are declared and the actions in their order. -/
structure Script (Path Name Service : Type) where
  services : List Service
  actions : Actions Path Name Service

/-- Nothing is written, set or started. -/
def State.boot : State Path Name Service := ⟨fun _ => "", fun _ => "", fun _ => false⟩

/-- A property without a value makes the whole value fail. -/
def expand (properties : Name → String) : List (Piece Name) → Option String
  | [] => some ""
  | .text text :: rest => (expand properties rest).map (text ++ ·)
  | .property name :: rest =>
      if properties name = "" then none else (expand properties rest).map (properties name ++ ·)

section Start

variable [DecidableEq Service] {services : List Service} {state : State Path Name Service}
  {service : Service}

/-- Only a service that is declared can be started. -/
def State.start (services : List Service) (state : State Path Name Service) (service : Service) :
    State Path Name Service :=
  if service ∈ services then { state with started := Function.update state.started service true }
  else state

/-- Starting a declared service brings it up. -/
theorem start_of_declared (declared : service ∈ services) :
    state.start services service =
      { state with started := Function.update state.started service true } :=
  if_pos declared

/-- Starting a service that no script declares does nothing. -/
theorem start_of_undeclared (undeclared : service ∉ services) :
    state.start services service = state :=
  if_neg undeclared

/-- Starting a service writes no file. -/
@[simp]
theorem start_files : (state.start services service).files = state.files := by
  by_cases declared : service ∈ services <;> simp [State.start, declared]

/-- Starting a service sets no property. -/
@[simp]
theorem start_properties :
    (state.start services service).properties = state.properties := by
  by_cases declared : service ∈ services <;> simp [State.start, declared]

/-- Only declared services are up. -/
def State.Declares (services : List Service) (state : State Path Name Service) : Prop :=
  ∀ service, state.started service = true → service ∈ services

/-- Only declared services come up by `start`. -/
theorem State.Declares.start (declares : state.Declares services) :
    (state.start services service).Declares services := by
  by_cases declared : service ∈ services
  · rw [start_of_declared declared]
    intro other up
    by_cases same : other = service
    · exact same ▸ declared
    · exact declares other ((Function.update_of_ne same ..).symm.trans up)
  · rwa [start_of_undeclared declared]

end Start

section Names

variable [DecidableEq Name]

def Action.triggers (action : Action Path Name Service) (event : Event Name) : Bool :=
  action.name = event.name && (action.value == none || action.value == some event.value)

/-- The commands of all actions that match, in their order. -/
def commandsFor (actions : Actions Path Name Service) (event : Event Name) :
    List (Command Path Name Service) :=
  (actions.filter (·.triggers event)).flatMap Action.commands

def State.set (state : State Path Name Service) (name : Name) (value : String) :
    State Path Name Service :=
  { state with properties := Function.update state.properties name value }

variable [DecidableEq Path] [DecidableEq Service]

/-- A command that fails does nothing; the action goes on. A service that is not declared is never
up, so that to stop it does nothing either. -/
def State.perform (services : List Service) (state : State Path Name Service) :
    Command Path Name Service → State Path Name Service
  | .write path value => (expand state.properties value).elim state fun content =>
      { state with files := Function.update state.files path content }
  | .setprop name value => (expand state.properties value).elim state (state.set name)
  | .start service => state.start services service
  | .stop service => { state with started := Function.update state.started service false }
  | .restart service => state.start services service
  | .other _ => state

section Performed

variable {services : List Service} {state : State Path Name Service}

@[simp]
theorem perform_write_text (path : Path) (text : String) :
    state.perform services (.write path [.text text]) =
      { state with files := Function.update state.files path text } := by
  simp [State.perform, expand]

/-- A restart leaves the service up, as a start does. -/
@[simp]
theorem perform_restart (service : Service) :
    state.perform services (.restart service) = state.start services service :=
  rfl

/-- A write starts and stops no service. -/
theorem started_write (services : List Service) (state : State Path Name Service) (path : Path)
    (value : List (Piece Name)) :
    (state.perform services (.write path value)).started = state.started := by
  cases made : expand state.properties value <;> simp [State.perform, made]

/-- A property change starts and stops no service. -/
theorem started_setprop (services : List Service) (state : State Path Name Service) (name : Name)
    (value : List (Piece Name)) :
    (state.perform services (.setprop name value)).started = state.started := by
  cases made : expand state.properties value <;> simp [State.perform, State.set, made]

end Performed

/-- The events that the command queues. -/
def State.emitted (state : State Path Name Service) : Command Path Name Service → List (Event Name)
  | .setprop name value => ((expand state.properties value).map (Event.mk name)).toList
  | _ => []

/-! ## Runs -/

/-- What is running and what waits. -/
structure Machine (Path Name Service : Type) where
  state : State Path Name Service
  events : List (Event Name)
  running : List (Command Path Name Service)

def Machine.boot : Machine Path Name Service := ⟨.boot, [], []⟩

/-- Nothing left to do. -/
def Machine.Idle (machine : Machine Path Name Service) : Prop :=
  machine.events = [] ∧ machine.running = []

/-- A step of the machine itself. -/
inductive Work (script : Script Path Name Service) :
    Machine Path Name Service → Machine Path Name Service → Prop where
  | execute {state events command rest} :
      Work script ⟨state, events, command :: rest⟩
        ⟨state.perform script.services command, events ++ state.emitted command, rest⟩
  | dequeue {state event events} :
      Work script ⟨state, event :: events, []⟩ ⟨state, events, commandsFor script.actions event⟩

/-- The machine works, or a client sets a property that it may set. -/
inductive Step (script : Script Path Name Service) (Settable : Name → Prop) :
    Machine Path Name Service → Machine Path Name Service → Prop where
  | work {machine next} : Work script machine next → Step script Settable machine next
  | set {state events running name value} : Settable name →
      Step script Settable ⟨state, events, running⟩
        ⟨state.set name value, events ++ [⟨name, value⟩], running⟩

def machine (script : Script Path Name Service) (Settable : Name → Prop) :
    TransitionSystem (Machine Path Name Service) where
  Initial := (· = .boot)
  Step := Step script Settable

/-- The machine with any other queue: whenever nothing runs, some actions of the script begin. -/
inductive Interleaving (script : Script Path Name Service) :
    State Path Name Service × List (Command Path Name Service) →
      State Path Name Service × List (Command Path Name Service) → Prop where
  | execute {state command rest} :
      Interleaving script (state, command :: rest) (state.perform script.services command, rest)
  | start {state actions} : actions ⊆ script.actions →
      Interleaving script (state, []) (state, actions.flatMap Action.commands)
  | set {state running name value} :
      Interleaving script (state, running) (state.set name value, running)

def interleaved (script : Script Path Name Service) :
    TransitionSystem (State Path Name Service × List (Command Path Name Service)) where
  Initial := (· = (.boot, []))
  Step := Interleaving script

variable {script : Script Path Name Service} {Settable : Name → Prop}

/-- The queue only decides which actions begin. -/
theorem interleaved_of_reachable {reached : Machine Path Name Service}
    (reachable : (machine script Settable).Reachable reached) :
    (interleaved script).Reachable (reached.state, reached.running) := by
  induction reachable with
  | initial start =>
      subst start
      exact .initial rfl
  | step _ transition ih =>
      cases transition with
      | set _ => exact ih.step .set
      | work worked =>
          cases worked with
          | execute => exact ih.step .execute
          | dequeue => exact ih.step (.start (List.filter_sublist.subset))

/-- What runs can run to its end. -/
theorem reachable_finish {state : State Path Name Service}
    {running : List (Command Path Name Service)}
    (reachable : (interleaved script).Reachable (state, running)) :
    (interleaved script).Reachable (running.foldl (State.perform script.services) state, []) := by
  induction running generalizing state with
  | nil => exact reachable
  | cons command rest ih => exact ih (reachable.step .execute)

/-- Only declared services are up after any command. -/
theorem State.Declares.perform {services : List Service} {state : State Path Name Service}
    (declares : state.Declares services) (command : Command Path Name Service) :
    (state.perform services command).Declares services := by
  cases command with
  | write path value =>
      rw [State.Declares, started_write]
      exact declares
  | setprop name value =>
      rw [State.Declares, started_setprop]
      exact declares
  | start service => exact declares.start
  | restart service => exact declares.start
  | stop service =>
      intro other up
      by_cases same : other = service
      · subst same
        exact absurd up (by simp [State.perform])
      · exact declares other ((Function.update_of_ne same ..).symm.trans up)
  | other line => exact declares

/-- A service that is not declared is never up. -/
theorem declares_of_reachable
    {reached : State Path Name Service × List (Command Path Name Service)}
    (reachable : (interleaved script).Reachable reached) : reached.1.Declares script.services := by
  induction reachable with
  | initial start =>
      subst start
      exact fun _ up => nomatch up
  | step _ transition ih =>
      cases transition with
      | execute => exact ih.perform _
      | start => exact ih
      | set => exact ih

/-! ## What holds at every command -/

section Outline

variable {services : List Service}
  {safe : State Path Name Service → Command Path Name Service → Prop}
  {steady middle : State Path Name Service → Prop}

/-- Commands that are safe when they run and lead to steady states, while others set properties. -/
def Outlined (services : List Service)
    (safe : State Path Name Service → Command Path Name Service → Prop)
    (steady : State Path Name Service → Prop) :
    List (Command Path Name Service) → State Path Name Service → Prop
  | [], state => ∀ properties, steady { state with properties := properties }
  | command :: rest, state => ∀ properties,
      safe { state with properties := properties } command ∧
        Outlined services safe steady rest
          (State.perform services { state with properties := properties } command)

/-- Setting properties makes no difference. -/
def Insensitive (steady : State Path Name Service → Prop) : Prop :=
  ∀ state properties, steady state → steady { state with properties := properties }

/-- It does not depend on the properties. -/
theorem Outlined.properties {commands : List (Command Path Name Service)}
    {state : State Path Name Service} (outlined : Outlined services safe steady commands state)
    (properties : Name → String) :
    Outlined services safe steady commands { state with properties := properties } := by
  cases commands with
  | nil => exact fun others => outlined others
  | cons command rest => exact fun others => outlined others

/-- One list of commands after another. -/
theorem Outlined.append {first second : List (Command Path Name Service)}
    (next : ∀ state, middle state → Outlined services safe steady second state)
    {state : State Path Name Service} (outlined : Outlined services safe middle first state) :
    Outlined services safe steady (first ++ second) state := by
  induction first generalizing state with
  | nil => exact (next _ (outlined state.properties)).properties state.properties
  | cons command rest ih => exact fun others => ⟨(outlined others).1, ih (outlined others).2⟩

/-- Commands that each keep an assertion. -/
theorem Outlined.of_forall {commands : List (Command Path Name Service)}
    (insensitive : Insensitive steady)
    (keeps : ∀ command ∈ commands, ∀ state, steady state →
      safe state command ∧ steady (state.perform services command))
    {state : State Path Name Service} (holds : steady state) :
    Outlined services safe steady commands state := by
  induction commands generalizing state with
  | nil => exact fun others => insensitive state others holds
  | cons command rest ih =>
      intro others
      obtain ⟨here, after⟩ := keeps command List.mem_cons_self _ (insensitive state others holds)
      exact ⟨here, ih (fun command member => keeps command (List.mem_cons_of_mem _ member)) after⟩

/-- Actions one after another. -/
theorem Outlined.flatMap {actions : List (Action Path Name Service)}
    (each : ∀ action ∈ actions, ∀ state, steady state →
      Outlined services safe steady action.commands state)
    (insensitive : Insensitive steady)
    {state : State Path Name Service} (holds : steady state) :
    Outlined services safe steady (actions.flatMap Action.commands) state := by
  induction actions generalizing state with
  | nil => exact fun others => insensitive state others holds
  | cons action rest ih =>
      refine Outlined.append (fun state holds => ?_) (each action List.mem_cons_self state holds)
      exact ih (fun action member => each action (List.mem_cons_of_mem _ member)) holds

/-- If every action is outlined, what is left of the running ones always is. -/
theorem outlined_of_reachable (booted : steady State.boot)
    (insensitive : Insensitive steady)
    (each : ∀ action ∈ script.actions, ∀ state, steady state →
      Outlined script.services safe steady action.commands state)
    {reached : State Path Name Service × List (Command Path Name Service)}
    (reachable : (interleaved script).Reachable reached) :
    Outlined script.services safe steady reached.2 reached.1 := by
  induction reachable with
  | initial start =>
      subst start
      exact fun others => insensitive State.boot others booted
  | step _ transition ih =>
      cases transition with
      | @execute state _ _ => exact (ih state.properties).2
      | @start state _ known =>
          exact Outlined.flatMap (fun action member => each action (known member)) insensitive
            (ih state.properties)
      | set => exact ih.properties _

end Outline

end Names

end Systems.Triggers
