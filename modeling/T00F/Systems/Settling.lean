import T00F.Systems.Triggers

/-!
# What triggered actions leave behind

A slot is a file, a property or a service. `content_of_settled` says what a slot holds once
no event of a property is queued: what the actions of that property's value leave in it, if
no other action leaves anything else there. `commandsFor_onValues` finds the actions of one
value in a table.
-/

namespace Systems.Triggers

variable {Path Name Service : Type}

inductive Slot (Path Name Service : Type) where
  | file (path : Path)
  | property (name : Name)
  | service (service : Service)
  deriving DecidableEq

def State.content (state : State Path Name Service) : Slot Path Name Service → String
  | .file path => state.files path
  | .property name => state.properties name
  | .service service => if state.started service then "running" else "stopped"

section Names

variable [DecidableEq Path] [DecidableEq Name] [DecidableEq Service]

/-- The value that a command gives to a slot. -/
def Command.assigned (services : List Service) (command : Command Path Name Service)
    (slot : Slot Path Name Service) : Option (List (Piece Name)) :=
  match command with
  | .write path value => if slot = .file path then some value else none
  | .setprop name value => if slot = .property name then some value else none
  | .start service =>
      if slot = .service service ∧ service ∈ services then some [.text "running"] else none
  | .stop service => if slot = .service service then some [.text "stopped"] else none
  | .restart service =>
      if slot = .service service ∧ service ∈ services then some [.text "running"] else none
  | .other _ => none

/-- The slot that a command deals with. -/
def Command.target : Command Path Name Service → Option (Slot Path Name Service)
  | .write path _ => some (.file path)
  | .setprop name _ => some (.property name)
  | .start service => some (.service service)
  | .stop service => some (.service service)
  | .restart service => some (.service service)
  | .other _ => none

/-- What a slot that holds `content` holds after the command. -/
def Command.update (services : List Service) (properties : Name → String)
    (slot : Slot Path Name Service) (content : String) (command : Command Path Name Service) :
    String :=
  (command.assigned services slot).elim content fun value => (expand properties value).getD content

/-- What a slot holds after the commands if no property changes meanwhile. -/
def planned (services : List Service) (properties : Name → String) (slot : Slot Path Name Service)
    (commands : List (Command Path Name Service)) (content : String) : String :=
  commands.foldl (Command.update services properties slot) content

variable {services : List Service} {slot : Slot Path Name Service}
  {properties others : Name → String}

/-- A command only gives a value to the slot that it deals with. -/
theorem assigned_of_target_ne {command : Command Path Name Service}
    (elsewhere : command.target ≠ some slot) : command.assigned services slot = none := by
  cases command <;>
    simp_all [Command.target, Command.assigned, eq_comm]

@[simp]
theorem planned_nil (content : String) :
    planned services properties slot ([] : List (Command Path Name Service)) content = content :=
  rfl

/-- The plan of a command and its rest is the plan of the rest from what the command leaves. -/
@[simp]
theorem planned_cons (command : Command Path Name Service)
    (rest : List (Command Path Name Service)) (content : String) :
    planned services properties slot (command :: rest) content =
      planned services properties slot rest (command.update services properties slot content) :=
  rfl

/-- A write of a text changes only its own file. -/
@[simp]
theorem update_write_text (path : Path) (text content : String) :
    (Command.write path [.text text] : Command Path Name Service).update services properties slot
      content = if slot = .file path then text else content := by
  by_cases here : slot = .file path <;> simp [Command.update, Command.assigned, expand, here]

/-- A property copied from another one changes only the target. -/
@[simp]
theorem update_setprop_property {name : Name} (value : properties name ≠ "") (target : Name)
    (content : String) :
    (Command.setprop target [.property name] : Command Path Name Service).update services properties
      slot content = if slot = .property target then properties name else content := by
  by_cases here : slot = .property target <;>
    simp [Command.update, Command.assigned, expand, value, here]

/-- A start changes only its service, and only a declared one. -/
@[simp]
theorem update_start (service : Service) (content : String) :
    (Command.start service : Command Path Name Service).update services properties slot content =
      if slot = .service service ∧ service ∈ services then "running" else content := by
  by_cases here : slot = .service service ∧ service ∈ services <;>
    simp [Command.update, Command.assigned, expand, here]

/-- A restart changes only its service, and only a declared one. -/
@[simp]
theorem update_restart (service : Service) (content : String) :
    (Command.restart service : Command Path Name Service).update services properties slot content =
      if slot = .service service ∧ service ∈ services then "running" else content :=
  update_start service content

/-- A stop changes only its service. -/
@[simp]
theorem update_stop (service : Service) (content : String) :
    (Command.stop service : Command Path Name Service).update services properties slot content =
      if slot = .service service then "stopped" else content := by
  by_cases here : slot = .service service <;>
    simp [Command.update, Command.assigned, expand, here]

@[simp]
theorem update_other (line content : String) :
    (Command.other line : Command Path Name Service).update services properties slot content =
      content :=
  rfl

/-- One list of commands after another. -/
theorem planned_append (first second : List (Command Path Name Service)) (content : String) :
    planned services properties slot (first ++ second) content =
      planned services properties slot second (planned services properties slot first content) :=
  List.foldl_append

/-- What a slot holds after a property was set. -/
@[simp]
theorem content_set (state : State Path Name Service) (name : Name) (value : String) :
    (state.set name value).content slot =
      if slot = .property name then value else state.content slot := by
  cases slot with
  | file path => rfl
  | property other => simp [State.set, State.content, Function.update_apply]
  | service service => rfl

/-- What a slot holds after a file was written. -/
@[simp]
theorem content_files (state : State Path Name Service) (path : Path) (content : String) :
    State.content { state with files := Function.update state.files path content } slot =
      if slot = .file path then content else state.content slot := by
  cases slot <;> simp [State.content, Function.update_apply]

/-- What a slot holds after a service went up or down. -/
@[simp]
theorem content_started (state : State Path Name Service) (service : Service) (up : Bool) :
    State.content { state with started := Function.update state.started service up } slot =
      if slot = .service service then (if up then "running" else "stopped")
      else state.content slot := by
  cases slot <;> simp [State.content, Function.update_apply]
  split <;> rfl

/-- Only a service that is declared comes up. -/
theorem content_start (state : State Path Name Service) (service : Service) :
    (state.start services service).content slot =
      if slot = .service service ∧ service ∈ services then "running" else state.content slot := by
  by_cases declared : service ∈ services
  · simp [start_of_declared declared, declared]
  · simp [start_of_undeclared declared, declared]

/-- What a command makes of a slot. -/
theorem content_perform (state : State Path Name Service) (command : Command Path Name Service) :
    (state.perform services command).content slot =
      command.update services state.properties slot (state.content slot) := by
  cases command with
  | write path value =>
      cases made : expand state.properties value <;>
        by_cases here : slot = .file path <;>
          simp [State.perform, Command.update, Command.assigned, made, here]
  | setprop name value =>
      cases made : expand state.properties value <;>
        by_cases here : slot = .property name <;>
          simp [State.perform, Command.update, Command.assigned, made, here]
  | start service =>
      rw [update_start]
      exact content_start state service
  | stop service =>
      by_cases here : slot = .service service <;>
        simp [State.perform, Command.update, Command.assigned, expand, here]
  | restart service =>
      rw [update_restart]
      exact content_start state service
  | other line => rfl

/-- A command that gives nothing to a slot leaves it as it is. -/
theorem content_perform_of_none {command : Command Path Name Service}
    (unassigned : command.assigned services slot = none) (state : State Path Name Service) :
    (state.perform services command).content slot = state.content slot := by
  rw [content_perform, Command.update, unassigned, Option.elim_none]

/-- Commands that give nothing to a slot leave it as it is. -/
theorem planned_of_none {commands : List (Command Path Name Service)}
    (unassigned : ∀ command ∈ commands, command.assigned services slot = none) (content : String) :
    planned services properties slot commands content = content := by
  induction commands with
  | nil => rfl
  | cons command rest ih =>
      rw [planned_cons, Command.update, unassigned command List.mem_cons_self, Option.elim_none]
      exact ih fun command member => unassigned command (List.mem_cons_of_mem _ member)

/-! ## When nothing is queued any more -/

/-- The value of the last event of a property. -/
def lastSet (name : Name) (events : List (Event Name)) : Option String :=
  (events.reverse.find? (·.name = name)).map Event.value

omit [DecidableEq Path] [DecidableEq Service] in
/-- Later events count first. -/
theorem lastSet_append (name : Name) (events more : List (Event Name)) :
    lastSet name (events ++ more) = (lastSet name more).or (lastSet name events) := by
  simp [lastSet, List.find?_append, Option.map_or]

/-- The last value that one event sets. -/
@[simp]
theorem lastSet_singleton (name : Name) (event : Event Name) :
    lastSet name [event] = if event.name = name then some event.value else none := by
  simp [lastSet, List.find?_singleton]

/-- The value does not depend on any other property. -/
def ReadsOnly (name : Name) (value : List (Piece Name)) : Prop :=
  ∀ other, .property other ∈ value → other = name

omit [DecidableEq Name] in
/-- A value that reads one property is the same whatever the others hold. -/
theorem expand_congr {name : Name} {value : List (Piece Name)} (only : ReadsOnly name value)
    (agree : properties name = others name) : expand properties value = expand others value := by
  induction value with
  | nil => rfl
  | cons piece rest ih =>
      have after := ih fun other member => only other (List.mem_cons_of_mem _ member)
      cases piece with
      | text text => rw [expand, expand, after]
      | property other =>
          obtain rfl := only other List.mem_cons_self
          rw [expand, expand, after, agree]

/-- What all commands of a list give to a slot only depends on one property. -/
def AssignReading (services : List Service) (name : Name) (slot : Slot Path Name Service)
    (commands : List (Command Path Name Service)) : Prop :=
  ∀ command ∈ commands, ∀ value, command.assigned services slot = some value → ReadsOnly name value

/-- A command whose value only depends on one property. -/
def Command.Reads (name : Name) : Command Path Name Service → Prop
  | .write _ value => ReadsOnly name value
  | .setprop _ value => ReadsOnly name value
  | _ => True

omit [DecidableEq Name] in
/-- A plain text reads no property. -/
@[simp]
theorem readsOnly_text (name : Name) (text : String) : ReadsOnly name [.text text] := by
  simp [ReadsOnly]

omit [DecidableEq Name] in
/-- A text that is one property reads only that one. -/
@[simp]
theorem readsOnly_property (name : Name) : ReadsOnly name [.property name] := by
  simp [ReadsOnly]

/-- Commands that each read one property at most. -/
theorem AssignReading.of_reads {name : Name} {commands : List (Command Path Name Service)}
    (reads : ∀ command ∈ commands, command.Reads name) :
    AssignReading services name slot commands := by
  intro command member value assigned
  have here := reads command member
  cases command with
  | write | setprop =>
      simp only [Command.assigned, Option.ite_none_right_eq_some, Option.some.injEq] at assigned
      rwa [← assigned.2]
  | start | stop | restart =>
      simp only [Command.assigned, Option.ite_none_right_eq_some, Option.some.injEq] at assigned
      rw [← assigned.2]
      exact readsOnly_text name _
  | other line => exact nomatch assigned

/-- Services are started and stopped without reading properties. -/
theorem AssignReading.service (services : List Service) (name : Name) (service : Service)
    (commands : List (Command Path Name Service)) :
    AssignReading services name (.service service) commands := by
  intro command _ value assigned
  cases command with
  | start | stop | restart =>
      simp only [Command.assigned, Option.ite_none_right_eq_some, Option.some.injEq] at assigned
      rw [← assigned.2]
      exact readsOnly_text name _
  | _ => simp [Command.assigned] at assigned

/-- Commands that give nothing to the slot. -/
theorem AssignReading.of_none {name : Name} {commands : List (Command Path Name Service)}
    (unassigned : ∀ command ∈ commands, command.assigned services slot = none) :
    AssignReading services name slot commands := by
  intro command member value assigned
  rw [unassigned command member] at assigned
  exact nomatch assigned

/-- Then it only matters what that property holds. -/
theorem planned_congr {name : Name} {commands : List (Command Path Name Service)}
    (reading : AssignReading services name slot commands) (agree : properties name = others name)
    (content : String) :
    planned services properties slot commands content =
      planned services others slot commands content := by
  refine List.foldl_ext _ _ _ fun before command member => ?_
  rw [Command.update, Command.update]
  cases assigns : command.assigned services slot with
  | none => rfl
  | some value => exact congrArg (·.getD before) (expand_congr (reading _ member _ assigns) agree)

/-- While a property has a value, the actions for that value leave `content` in the slot, and all
others leave it as it is. -/
structure Determines (script : Script Path Name Service) (name : Name) (value : String)
    (slot : Slot Path Name Service) (content : String) : Prop where
  reading : ∀ action ∈ script.actions, AssignReading script.services name slot action.commands
  assigned : ∀ properties before, properties name = value →
    planned script.services properties slot (commandsFor script.actions ⟨name, value⟩) before =
      content
  kept : ∀ action ∈ script.actions, action.name ≠ name → ∀ properties, properties name = value →
    planned script.services properties slot action.commands content = content

variable {script : Script Path Name Service} {Settable : Name → Prop} {name : Name}
  {value content : String}

/-- The queue and the running commands end with the property's value and what it determines. -/
structure Synced (services : List Service) (name : Name) (value : String)
    (slot : Slot Path Name Service) (content : String) (machine : Machine Path Name Service) :
    Prop where
  reading : AssignReading services name slot machine.running
  current : ∀ last, lastSet name machine.events = some last → machine.state.properties name = last
  leaves : lastSet name machine.events = none → machine.state.properties name = value →
    planned services machine.state.properties slot machine.running (machine.state.content slot) =
      content

/-- Actions whose commands each read one property. -/
theorem AssignReading.flatMap {actions : List (Action Path Name Service)}
    (reading : ∀ action ∈ actions, AssignReading services name slot action.commands) :
    AssignReading services name slot (actions.flatMap Action.commands) := by
  intro command member
  obtain ⟨action, known, member⟩ := List.mem_flatMap.mp member
  exact reading action known command member

/-- Actions that each leave a content in the slot. -/
theorem planned_flatMap {actions : List (Action Path Name Service)}
    (kept : ∀ action ∈ actions,
      planned services properties slot action.commands content = content) :
    planned services properties slot (actions.flatMap Action.commands) content = content := by
  induction actions with
  | nil => rfl
  | cons action rest ih =>
      rw [List.flatMap_cons, planned_append, kept action List.mem_cons_self]
      exact ih fun action member => kept action (List.mem_cons_of_mem _ member)

omit [DecidableEq Path] [DecidableEq Service] in
/-- An action that matches is on the event's property. -/
theorem name_of_triggers {action : Action Path Name Service} {event : Event Name}
    (triggers : action.triggers event) : action.name = event.name :=
  of_decide_eq_true (Bool.and_eq_true_iff.mp triggers).1

/-- The actions for another property leave the slot as it is. -/
theorem Determines.other (determines : Determines script name value slot content)
    {event : Event Name} (other : event.name ≠ name) (holds : properties name = value) :
    planned script.services properties slot (commandsFor script.actions event) content =
      content := by
  refine planned_flatMap fun action member => ?_
  obtain ⟨known, triggers⟩ := List.mem_filter.mp member
  refine determines.kept action known ?_ properties holds
  rwa [name_of_triggers triggers]

/-- A property holds what a command has just set, or what it held. -/
theorem properties_perform (services : List Service) (state : State Path Name Service)
    (command : Command Path Name Service) (name : Name) :
    (state.perform services command).properties name =
      (lastSet name (state.emitted command)).getD (state.properties name) := by
  cases command with
  | setprop other value =>
      cases made : expand state.properties value with
      | none => simp [State.perform, State.emitted, lastSet, made]
      | some content =>
          by_cases same : name = other
          · simp [State.perform, State.emitted, State.set, made, same]
          · simp [State.perform, State.emitted, State.set, made, same, Ne.symm same]
  | write path value =>
      cases made : expand state.properties value <;>
        simp [State.perform, State.emitted, lastSet, made]
  | start service => exact congrFun start_properties name
  | stop service => rfl
  | restart service => exact congrFun start_properties name
  | other line => rfl

/-- Step lemma: what init itself does keeps the queue in step with the slot. -/
theorem Synced.work (determines : Determines script name value slot content)
    {machine next : Machine Path Name Service}
    (synced : Synced script.services name value slot content machine)
    (worked : Work script machine next) : Synced script.services name value slot content next := by
  cases worked with
  | @execute state events command rest =>
      have restReading : AssignReading script.services name slot rest :=
        fun command member => synced.reading command (List.mem_cons_of_mem _ member)
      have property := properties_perform script.services state command name
      have queued := lastSet_append name events (state.emitted command)
      refine ⟨restReading, fun last queuedLast => ?_, fun none holds => ?_⟩
      · rw [queued] at queuedLast
        cases emitted : lastSet name (state.emitted command) with
        | none =>
            rw [emitted, Option.none_or] at queuedLast
            rw [property, emitted]
            exact synced.current last queuedLast
        | some content =>
            rw [emitted, Option.some_or] at queuedLast
            rw [property, emitted]
            exact Option.some.inj queuedLast
      · rw [queued, Option.or_eq_none_iff] at none
        rw [property, none.1, Option.getD_none] at holds
        have before := synced.leaves none.2 holds
        rw [planned_cons, ← content_perform] at before
        refine (planned_congr restReading ?_ _).trans before
        rw [property, none.1, Option.getD_none]
  | @dequeue state event events =>
      have queued := lastSet_append name [event] events
      refine ⟨?_, fun last queuedLast => ?_, fun none holds => ?_⟩
      · exact .flatMap fun action member =>
          determines.reading action (List.mem_of_mem_filter member)
      · refine synced.current last ?_
        rw [List.singleton_append] at queued
        rw [queued, queuedLast, Option.some_or]
      · rw [List.singleton_append, none, Option.none_or, lastSet_singleton] at queued
        by_cases same : event.name = name
        · rw [if_pos same] at queued
          obtain rfl : event.value = value := (synced.current _ queued).symm.trans holds
          obtain rfl := same
          exact determines.assigned _ _ holds
        · rw [if_neg same] at queued
          have before : state.content slot = content := synced.leaves queued holds
          exact (congrArg _ before).trans (determines.other same holds)

/-- Step lemma: clients may set any property but the slot itself. -/
theorem Synced.step (determines : Determines script name value slot content)
    (reserved : ∀ other, Settable other → slot ≠ .property other)
    {machine next : Machine Path Name Service}
    (synced : Synced script.services name value slot content machine)
    (step : Step script Settable machine next) :
    Synced script.services name value slot content next := by
  cases step with
  | work worked => exact synced.work determines worked
  | @set state events running other text settable =>
      have queued := lastSet_append name events [⟨other, text⟩]
      rw [lastSet_singleton] at queued
      by_cases same : other = name
      · subst same
        rw [if_pos rfl, Option.some_or] at queued
        refine ⟨synced.reading, fun last queuedLast => ?_, fun none => ?_⟩
        · rw [queued] at queuedLast
          rw [← Option.some.inj queuedLast]
          exact Function.update_self ..
        · rw [queued] at none
          exact nomatch none
      · have kept : (state.set other text).properties name = state.properties name :=
          Function.update_of_ne (Ne.symm same) ..
        rw [if_neg same, Option.none_or] at queued
        refine ⟨synced.reading, fun last queuedLast => ?_, fun none holds => ?_⟩
        · rw [queued] at queuedLast
          exact kept.trans (synced.current last queuedLast)
        · rw [queued] at none
          have before := synced.leaves none (kept.symm.trans holds)
          rw [content_set, if_neg (reserved other settable)]
          exact (planned_congr synced.reading kept _).trans before

/-- Once no event of the property is queued and nothing runs, the slot holds what the property's
value determines. -/
theorem content_of_settled (determines : Determines script name value slot content)
    (reserved : ∀ other, Settable other → slot ≠ .property other) (nonempty : value ≠ "")
    {reached : Machine Path Name Service} (reachable : (machine script Settable).Reachable reached)
    (settled : lastSet name reached.events = none) (finished : reached.running = [])
    (holds : reached.state.properties name = value) : reached.state.content slot = content := by
  have synced : Synced script.services name value slot content reached := by
    refine TransitionSystem.invariant ?_ (fun _ _ synced => synced.step determines reserved)
      reachable
    rintro _ rfl
    refine ⟨fun _ member => absurd member List.not_mem_nil, fun last queued => ?_,
      fun _ booted => absurd booted.symm nonempty⟩
    exact absurd queued (by simp [lastSet, Machine.boot])
  have left := synced.leaves settled holds
  rwa [finished] at left

/-! ## Actions for the values of one property -/

/-- A table of values with the commands for each. -/
def onValues (name : Name) (table : List (String × List (Command Path Name Service))) :
    Actions Path Name Service :=
  table.map fun row => ⟨name, some row.1, row.2⟩

omit [DecidableEq Path] [DecidableEq Service] in
/-- The commands of some actions, then those of others. -/
theorem commandsFor_append (first second : Actions Path Name Service) (event : Event Name) :
    commandsFor (first ++ second) event = commandsFor first event ++ commandsFor second event := by
  rw [commandsFor, List.filter_append, List.flatMap_append]
  rfl

omit [DecidableEq Path] [DecidableEq Service] in
/-- Actions on other properties do not match. -/
theorem commandsFor_of_other {actions : Actions Path Name Service} {event : Event Name}
    (other : ∀ action ∈ actions, action.name ≠ event.name) : commandsFor actions event = [] := by
  have none : actions.filter (·.triggers event) = [] :=
    List.filter_eq_nil_iff.mpr fun action member triggers =>
      other action member (name_of_triggers triggers)
  rw [commandsFor, none, List.flatMap_nil]

omit [DecidableEq Path] [DecidableEq Service] in
/-- Of a table without repeated values just the one row matches. -/
theorem commandsFor_onValues {table : List (String × List (Command Path Name Service))}
    (distinct : (table.map Prod.fst).Nodup) {row : String × List (Command Path Name Service)}
    (member : row ∈ table) : commandsFor (onValues name table) ⟨name, row.1⟩ = row.2 := by
  induction table with
  | nil => exact absurd member List.not_mem_nil
  | cons first rest ih =>
      rw [List.map_cons, List.nodup_cons] at distinct
      have split : commandsFor (onValues name (first :: rest)) ⟨name, row.1⟩ =
          (if first.1 = row.1 then first.2 else []) ++
            commandsFor (onValues name rest) ⟨name, row.1⟩ := by
        by_cases same : first.1 = row.1 <;> simp [commandsFor, onValues, Action.triggers, same]
      rw [split]
      rcases List.mem_cons.mp member with rfl | member
      · have others : commandsFor (onValues name rest) ⟨name, row.1⟩ = [] := by
          rw [commandsFor, List.flatMap_eq_nil_iff]
          intro action found
          obtain ⟨found, triggers⟩ := List.mem_filter.mp found
          obtain ⟨other, member, rfl⟩ := List.mem_map.mp found
          have same : other.1 = row.1 := by simpa [Action.triggers] using triggers
          exact absurd (List.mem_map.mpr ⟨other, member, same⟩) distinct.1
        rw [if_pos rfl, others, List.append_nil]
      · have differ : first.1 ≠ row.1 := by
          intro same
          exact distinct.1 (same ▸ List.mem_map.mpr ⟨row, member, rfl⟩)
        rw [if_neg differ, List.nil_append]
        exact ih distinct.2 member

end Names

end Systems.Triggers
